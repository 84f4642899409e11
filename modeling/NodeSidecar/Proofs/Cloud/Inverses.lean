/-
**Permissions that are added and removed again.**

A request that is refused has changed nothing.  One that is settled can be taken back: a permission
that was added can be removed next, and one that was removed can be added next.

Taking back an addition restores the rules in their order, since a rule that was put at the end goes
again, and address ranges that were joined to a rule are taken out of it.  A rule that had no
address ranges in the first place would not survive that, since a rule goes when nothing is left of
it.  Taking back a removal restores the rules up to their order: a rule that went with its last
address range comes back at the end, provided no other rule of its slot is in its place.

Main definition: `Populated` — every rule has an address range.

Main results:

* `CidrSet.diff_union`, `CidrSet.union_diff` — the same for sets;
* `revokeIn_of_authorizeIn`, `authorizeIn_of_revokeIn` — the same for lists of permissions;
* `IngressChange.applyTo_distinct`, `IngressChange.applyTo_populated` — what a change keeps;
* `permission_changes_are_inverse` — **changes are all or nothing, and can be taken back**.
-/

import NodeSidecar.Proofs.Cloud.Failures
import NodeSidecar.Proofs.Cloud.Requests

set_option autoImplicit false

namespace NodeSidecar

/-! ### Sets -/

namespace CidrSet

variable {s t : CidrSet}

/-- What was joined to a set can be taken out again, if none of it was there before. -/
theorem diff_union (h : ∀ c ∈ t, c ∉ s) : (s.union t).diff t = s := by
  refine ext fun c => ?_
  rw [mem_diff, mem_union]
  exact ⟨fun hc => hc.1.resolve_right hc.2, fun hc => ⟨.inl hc, fun ht => h c ht hc⟩⟩

/-- What was taken out of a set can be joined to it again, if all of it was there before. -/
theorem union_diff (h : ∀ c ∈ t, c ∈ s) : (s.diff t).union t = s := by
  refine ext fun c => ?_
  rw [mem_union, mem_diff]
  refine ⟨fun hc => hc.elim And.left (h c), fun hc => ?_⟩
  by_cases ht : c ∈ t
  · exact .inr ht
  · exact .inl ⟨hc, ht⟩

/-- A set of which all is taken out is that much. -/
theorem eq_of_diff_isEmpty (h : ∀ c ∈ t, c ∈ s) (hleft : (s.diff t).isEmpty = true) : s = t := by
  refine ext fun c => ⟨fun hc => ?_, h c⟩
  by_contra ht
  exact isEmpty_iff.1 hleft c (mem_diff.2 ⟨hc, ht⟩)

theorem isEmpty_union (h : s.isEmpty = false) : (s.union t).isEmpty = false := by
  obtain ⟨c, hc⟩ := exists_mem_of_not_isEmpty h
  refine Bool.eq_false_iff.2 fun hempty => ?_
  exact isEmpty_iff.1 hempty c (mem_union.2 (.inl hc))

end CidrSet

/-! ### Lists of permissions -/

/-- **Every rule has an address range.** -/
def Populated (ps : List IngressRule) : Prop := ∀ p ∈ ps, p.cidrs.isEmpty = false

instance (ps : List IngressRule) : Decidable (Populated ps) :=
  inferInstanceAs (Decidable (∀ p ∈ ps, _))

theorem IngressRule.eq_of_slot_eq {p r : IngressRule} (hslot : p.slot = r.slot)
    (hcidrs : p.cidrs = r.cidrs) : p = r := by
  cases p
  cases r
  simp_all [slot]

section Lists

variable {r : IngressRule} {ps ps' : List IngressRule}

/-- **A permission that was added can be removed next**, which restores the rules in their order. -/
theorem revokeIn_of_authorizeIn (h : authorizeIn r ps = .ok ps') (hps : Populated ps) :
    revokeIn r ps' = .ok ps := by
  rcases absent_or_split r.slot ps with hab | ⟨before, p, after, rfl, hbefore, hp⟩
  · rw [authorizeIn_of_absent hab] at h
    obtain rfl := Except.ok.inj h
    -- nothing is left of the rule at the end
    have hself : r.cidrs.subset r.cidrs = true := CidrSet.subset_iff.2 fun _ hc => hc
    have hleft : (r.cidrs.diff r.cidrs).isEmpty = true :=
      CidrSet.isEmpty_iff.2 fun c hc => (CidrSet.mem_diff.1 hc).2 (CidrSet.mem_diff.1 hc).1
    rw [revokeIn_of_split hab rfl, if_pos hself, if_pos hleft, List.append_nil]
  · rw [authorizeIn_of_split hbefore hp] at h
    split at h
    · cases h
    · next hnone =>
      obtain rfl := Except.ok.inj h
      have hback : (p.cidrs.union r.cidrs).diff r.cidrs = p.cidrs :=
        CidrSet.diff_union (CidrSet.firstIn?_eq_none.1 hnone)
      have hall : r.cidrs.subset (p.cidrs.union r.cidrs) = true :=
        CidrSet.subset_iff.2 fun c hc => CidrSet.mem_union.2 (.inr hc)
      have hkept : p.cidrs.isEmpty = false := hps p (by simp)
      have hjoined : IngressRule.slot { p with cidrs := p.cidrs.union r.cidrs } = r.slot := hp
      rw [revokeIn_of_split hbefore hjoined, if_pos hall]
      simp only [hback, hkept, Bool.false_eq_true, if_false]

-- a rule without an address range is not restored
example :
    let r : IngressRule := .tcp (.singleton "10.0.0.1/32") 7000 7001
    authorizeIn r [.tcp .empty 7000 7001] = .ok [r] ∧ revokeIn r [r] = .ok [] := by
  decide +kernel

/-- **A permission that was removed can be added next**, which restores the rules up to their
order. -/
theorem authorizeIn_of_revokeIn (h : revokeIn r ps = .ok ps') (hd : DistinctSlots ps) :
    ∃ ps'', authorizeIn r ps' = .ok ps'' ∧ ps''.Perm ps := by
  rcases absent_or_split r.slot ps with hab | ⟨before, p, after, rfl, hbefore, hp⟩
  · rw [revokeIn_of_absent hab] at h
    cases h
  · rw [revokeIn_of_split hbefore hp] at h
    split at h
    · next hsub =>
      have hall := CidrSet.subset_iff.1 hsub
      cases hleft : (p.cidrs.diff r.cidrs).isEmpty with
      | true =>
          rw [hleft, if_pos rfl] at h
          obtain rfl := Except.ok.inj h
          -- the rule has gone, and comes back at the end
          obtain rfl : p = r := IngressRule.eq_of_slot_eq hp (CidrSet.eq_of_diff_isEmpty hall hleft)
          have habsent : p.slot ∉ (before ++ after).map IngressRule.slot := by
            rw [DistinctSlots, List.map_append, List.map_cons] at hd
            rw [List.map_append]
            exact (List.nodup_cons.1 (List.nodup_middle.1 hd)).1
          have hend : (after ++ [p]).Perm ([p] ++ after) := List.perm_append_comm
          refine ⟨_, authorizeIn_of_absent habsent, ?_⟩
          rw [List.append_assoc]
          exact hend.append_left before
      | false =>
          rw [hleft, if_neg Bool.false_ne_true] at h
          obtain rfl := Except.ok.inj h
          have hnone : r.cidrs.firstIn? (p.cidrs.diff r.cidrs) = none :=
            CidrSet.firstIn?_eq_none.2 fun c hc hdiff => (CidrSet.mem_diff.1 hdiff).2 hc
          have hrest : IngressRule.slot { p with cidrs := p.cidrs.diff r.cidrs } = r.slot := hp
          refine ⟨before ++ p :: after, ?_, .refl _⟩
          rw [authorizeIn_of_split hbefore hrest, hnone]
          simp only [CidrSet.union_diff hall]
    · cases h

-- of two rules of a slot the second one takes the place of the first
example :
    let r : IngressRule := .tcp (.singleton "10.0.0.1/32") 7000 7001
    let second : IngressRule := .tcp (.singleton "10.0.0.2/32") 7000 7001
    revokeIn r [r, second] = .ok [second] ∧
      authorizeIn r [second] = .ok [.tcp (second.cidrs.union r.cidrs) 7000 7001] := by
  decide +kernel

variable {change : IngressChange}

/-- A change keeps the slots of the rules distinct. -/
theorem IngressChange.applyTo_distinct (h : change.applyTo r ps = .ok ps')
    (hr : r.cidrs.isEmpty = false) (hd : DistinctSlots ps) : DistinctSlots ps' := by
  rcases change.applyTo_cases hd hr with ⟨-, ps'', heq, hchanged⟩ | ⟨-, text, heq⟩
  · rw [h] at heq
    exact Except.ok.inj heq ▸ hchanged.distinct
  · rw [h] at heq
    cases heq

/-- A change leaves no rule without an address range. -/
theorem IngressChange.applyTo_populated (h : change.applyTo r ps = .ok ps')
    (hr : r.cidrs.isEmpty = false) (hps : Populated ps) : Populated ps' := by
  rcases absent_or_split r.slot ps with hab | ⟨before, p, after, rfl, hbefore, hp⟩
  · cases change with
    | authorize =>
        rw [applyTo, authorizeIn_of_absent hab] at h
        obtain rfl := Except.ok.inj h
        intro q hq
        rcases List.mem_append.1 hq with hq | hq
        · exact hps q hq
        · exact List.mem_singleton.1 hq ▸ hr
    | revoke =>
        rw [applyTo, revokeIn_of_absent hab] at h
        cases h
  · have hreplaced : ∀ cidrs : CidrSet, cidrs.isEmpty = false →
        Populated (before ++ { p with cidrs } :: after) := by
      intro cidrs hcidrs q hq
      rcases List.mem_append.1 hq with hq | hq
      · exact hps q (List.mem_append_left _ hq)
      · rcases List.mem_cons.1 hq with rfl | hq
        · exact hcidrs
        · exact hps q (by simp [hq])
    cases change with
    | authorize =>
        rw [applyTo, authorizeIn_of_split hbefore hp] at h
        split at h
        · cases h
        · obtain rfl := Except.ok.inj h
          exact hreplaced _ (CidrSet.isEmpty_union (hps p (by simp)))
    | revoke =>
        rw [applyTo, revokeIn_of_split hbefore hp] at h
        split at h
        · obtain rfl := Except.ok.inj h
          split
          · intro q hq
            rcases List.mem_append.1 hq with hq | hq
            · exact hps q (List.mem_append_left _ hq)
            · exact hps q (by simp [hq])
          · next hleft => exact hreplaced _ (Bool.eq_false_iff.2 hleft)
        · cases h

end Lists

/-! ### Requests -/

namespace Cloud

/-- **What a request has changed**: nothing if it fails, else what the store makes of it. -/
theorem attempt_cases {α : Type} (c : Cloud) (r : Request)
    (act : Store → Except CloudError (α × Store)) :
    (∃ e c', c.attempt r act = (.error e, c') ∧ c'.store = c.store) ∨
      ∃ a c', c.attempt r act = (.ok a, c') ∧ act c.store = .ok (a, c'.store) := by
  cases hf : c.faults.failure 0 with
  | some e =>
      obtain ⟨c', heq, -, hstore⟩ := c.attempt_of_failure r act hf
      exact .inl ⟨e, c', heq, hstore⟩
  | none =>
      cases ha : act c.store with
      | error e =>
          obtain ⟨c', heq, -, hstore⟩ := c.attempt_of_refused r act hf ha
          exact .inl ⟨e, c', heq, hstore⟩
      | ok settled =>
          obtain ⟨c', heq, -, hstore⟩ := c.attempt_of_settled r act hf ha
          exact .inr ⟨settled.1, c', heq, by rw [hstore]⟩

variable {name : String} {w : Surroundings name} {c c' : Cloud} {change : IngressChange}
  {r : IngressRule} {ps ps' : List IngressRule}

/-- **A change that fails has changed nothing**, whatever the provider was told to fail. -/
theorem store_of_changeIngress_error {e : CloudError}
    (h : c.changeIngress change name r = (.error e, c')) : c'.store = c.store := by
  rw [changeIngress_eq] at h
  rcases c.attempt_cases _ _ with ⟨e', c'', heq, hstore⟩ | ⟨a, c'', heq, -⟩
  · rw [heq] at h
    exact (Prod.mk.inj h).2 ▸ hstore
  · rw [heq] at h
    cases h

/-- A change that succeeds is one of the permissions of its group, and of nothing else. -/
theorem store_of_changeIngress_ok (hc : c.store = w.store ps)
    (h : c.changeIngress change name r = (.ok (), c')) :
    ∃ ps', change.applyTo r ps = .ok ps' ∧ c'.store = w.store ps' := by
  rw [changeIngress_eq] at h
  rcases c.attempt_cases _ _ with ⟨e', c'', heq, -⟩ | ⟨a, c'', heq, hact⟩
  · rw [heq] at h
    cases h
  · rw [heq] at h
    obtain rfl := (Prod.mk.inj h).2
    rw [hc, w.request_store] at hact
    cases happ : change.applyTo r ps with
    | error e =>
        rw [happ] at hact
        cases hact
    | ok ps' =>
        rw [happ] at hact
        exact ⟨ps', rfl, (Prod.mk.inj (Except.ok.inj hact)).2.symm⟩

/-- A change that the permissions allow succeeds unless it is told to fail. -/
theorem changeIngress_of_applyTo (hc : c.store = w.store ps) (hfails : c.faults.failure 0 = none)
    (h : change.applyTo r ps = .ok ps') :
    ∃ c', c.changeIngress change name r = (.ok (), c') ∧ c'.store = w.store ps' := by
  have ha : (change.request name r c.store).map (fun s => ((), s)) = .ok ((), w.store ps') := by
    rw [hc, w.request_store, h]
    rfl
  obtain ⟨c', heq, -, hstore⟩ := c.attempt_of_settled (.changeIngress change name r)
    (fun s => (change.request name r s).map fun s => ((), s)) hfails ha
  exact ⟨c', (c.changeIngress_eq change name r).trans heq, hstore⟩

end Cloud

/-- **Changes of permissions are all or nothing, and each can be taken back by the other.**  Let `r`
be a permission with an address range, for a security group of the name.

* A change that fails, for whatever reason, has changed nothing.
* A change that succeeds changes nothing but the rules of the group; their slots stay distinct if
  they were, and no rule is left without an address range if none was.
* If `r` was added and no rule was without an address range, it is removed by the next request,
  unless that is told to fail, and the store is as before, the rules in their order.
* If `r` was removed and the slots of the rules were distinct, it is added by the next request,
  unless that is told to fail, and the store is as before up to the order of the rules. -/
theorem permission_changes_are_inverse {name : String} {c c' : Cloud} {r : IngressRule}
    (hr : r.cidrs.isEmpty = false) :
    (∀ change e, c.changeIngress change name r = (.error e, c') → c'.store = c.store) ∧
    ∀ (w : Surroundings name) ps, c.store = w.store ps →
      (∀ change, c.changeIngress change name r = (.ok (), c') →
        ∃ ps', c'.store = w.store ps' ∧ (DistinctSlots ps → DistinctSlots ps') ∧
          (Populated ps → Populated ps')) ∧
      (c.changeIngress .authorize name r = (.ok (), c') → Populated ps →
        c'.faults.failure 0 = none →
          ∃ c'', c'.changeIngress .revoke name r = (.ok (), c'') ∧ c''.store = c.store) ∧
      (c.changeIngress .revoke name r = (.ok (), c') → DistinctSlots ps →
        c'.faults.failure 0 = none →
          ∃ c'' ps'', c'.changeIngress .authorize name r = (.ok (), c'') ∧
            c''.store = w.store ps'' ∧ ps''.Perm ps) := by
  refine ⟨fun change e => Cloud.store_of_changeIngress_error, fun w ps hc => ⟨?_, ?_, ?_⟩⟩
  · intro change h
    obtain ⟨ps', happ, hc'⟩ := Cloud.store_of_changeIngress_ok hc h
    exact ⟨ps', hc', IngressChange.applyTo_distinct happ hr,
      IngressChange.applyTo_populated happ hr⟩
  · intro h hps hfails
    obtain ⟨ps', happ, hc'⟩ := Cloud.store_of_changeIngress_ok hc h
    have hback : IngressChange.revoke.applyTo r ps' = .ok ps := revokeIn_of_authorizeIn happ hps
    obtain ⟨c'', heq, hstore⟩ := Cloud.changeIngress_of_applyTo hc' hfails hback
    exact ⟨c'', heq, hstore.trans hc.symm⟩
  · intro h hd hfails
    obtain ⟨ps', happ, hc'⟩ := Cloud.store_of_changeIngress_ok hc h
    obtain ⟨ps'', hadded, hperm⟩ := authorizeIn_of_revokeIn happ hd
    have hback : IngressChange.authorize.applyTo r ps' = .ok ps'' := hadded
    obtain ⟨c'', heq, hstore⟩ := Cloud.changeIngress_of_applyTo hc' hfails hback
    exact ⟨c'', ps'', heq, hstore, hperm⟩

/-- A rule in the middle that is removed as a whole comes back at the end, an address range that is
joined to it is taken out of it again, and one that it has cannot be added. -/
theorem permission_changes_are_inverse_of_middle_rule :
    let r : IngressRule := .tcp (.singleton "10.0.0.1/32") 7000 7001
    let joined : IngressRule := .tcp (.ofList ["10.0.0.3/32", "10.0.0.2/32"]) 7000 7001
    let first : IngressRule := ⟨"udp", 7000, 7001, .singleton "10.0.0.1/32"⟩
    let last : IngressRule := .tcp (.singleton "10.0.0.1/32") 9042 9042
    let w : Surroundings "acl" := ⟨[], [⟨"other", [r, r]⟩], [⟨"acl", []⟩], by decide⟩
    let c : Cloud := { store := w.store [first, r, last] }
    let added := (c.changeIngress .authorize "acl" joined).2
    let removed := (c.changeIngress .revoke "acl" r).2
    r.cidrs.isEmpty = false ∧ joined.cidrs.isEmpty = false ∧
      Populated [first, r, last] ∧ DistinctSlots [first, r, last] ∧
      c.changeIngress .authorize "acl" joined = (.ok (), added) ∧
      c.changeIngress .revoke "acl" r = (.ok (), removed) ∧
      (∃ c', added.changeIngress .revoke "acl" joined = (.ok (), c') ∧ c'.store = c.store) ∧
      (∃ c' ps, removed.changeIngress .authorize "acl" r = (.ok (), c') ∧
        c'.store = w.store ps ∧ ps.Perm [first, r, last]) ∧
      ∃ e c', c.changeIngress .authorize "acl" r = (.error e, c') ∧ c'.store = c.store := by
  intro r joined first last w c added removed
  have hr : r.cidrs.isEmpty = false := rfl
  have hjoined : joined.cidrs.isEmpty = false := by decide +kernel
  have hps : Populated [first, r, last] := by decide
  have hd : DistinctSlots [first, r, last] := by decide
  have hadded : c.changeIngress .authorize "acl" joined = (.ok (), added) := by rfl
  have hremoved : c.changeIngress .revoke "acl" r = (.ok (), removed) := by rfl
  have hrefused : c.changeIngress .authorize "acl" r =
      (.error (.duplicatePermission ("10.0.0.1/32" ++ " " ++ r.rangeText)),
        (c.changeIngress .authorize "acl" r).2) := by rfl
  have hc : c.store = w.store [first, r, last] := rfl
  have hback := ((permission_changes_are_inverse hjoined).2 w _ hc).2.1 hadded hps rfl
  have hagain := ((permission_changes_are_inverse hr).2 w _ hc).2.2 hremoved hd rfl
  have hfailed := (permission_changes_are_inverse hr).1 .authorize _ hrefused
  exact ⟨hr, hjoined, hps, hd, hadded, hremoved, hback, hagain, _, _, hrefused, hfailed⟩

end NodeSidecar
