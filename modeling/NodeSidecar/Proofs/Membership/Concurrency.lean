/-
**Changes of permissions that run at the same time.**

A change is asked for as a whole and, when that is refused, for each of its address ranges.  Other
changes may come in between any two of these requests: they may settle an address range first, drop
the rule of a slot, or make it again.  As long as no two of the changes contradict each other, none
of this matters: what one change has settled stays settled, so every change succeeds, and in the end
the sets are what the changes make of them together.

Main definitions:

* `AclChange` — a call that adds or removes address ranges, and `AclChange.operation`;
* `AclChange.Compatible` — two changes that do not contradict each other;
* `AclChange.Evolves` — a list of permissions after some requests of a change;
* `Stands` — how far a change is, and in how many turns it ends at the latest;
* `Reached` — a list of permissions after some requests of several changes;
* `Underway` — several changes under way.

Main results:

* `AclChange.Evolves.settled` — what one change has settled stays settled under the others;
* `Stands.turn` — **one turn of a change**;
* `Underway.takeTurns` — **any number of turns of several changes**;
* `concurrent_changes_lose_nothing` — all changes succeed, and none is lost.
-/

import NodeSidecar.Proofs.Membership.Ingress
import NodeSidecar.Proofs.Membership.Turns

set_option autoImplicit false

namespace NodeSidecar

/-! ### Changes -/

/-- **A call that changes permissions.** -/
structure AclChange where
  change : IngressChange
  cidrs : List String
  fromPort : UInt16
  toPort : UInt16
  deriving DecidableEq

namespace AclChange

variable (s : MembershipSettings) (a b : AclChange)

/-- The operation of the call. -/
def operation : Operation Unit :=
  match a.change with
  | .authorize => Membership.addIngress s a.cidrs a.fromPort a.toPort
  | .revoke => Membership.removeIngress s a.cidrs a.fromPort a.toPort

/-- The slot that it changes. -/
def slot : Slot := Membership.tcpSlot a.fromPort a.toPort

/-- The address ranges that it adds or removes. -/
def ranges : CidrSet := .ofList a.cidrs

/-- The turns that it takes at the latest: one for its client, one for the request as a whole, one
for each address range, and one for the release. -/
def turns : Nat := a.ranges.elements.length + 3

/-- It is settled for an address range. -/
def SettledIn (ps : List IngressRule) (x : String) : Prop :=
  a.change.Settled (rangesOf a.slot ps) x

/-- **Two changes do not contradict each other**: what one of them adds to a slot the other one
does not remove from it. -/
def Compatible : Prop :=
  a.slot = b.slot → a.change ≠ b.change → ∀ x ∈ a.cidrs, x ∉ b.cidrs

instance : Decidable (a.Compatible b) :=
  inferInstanceAs (Decidable (a.slot = b.slot → a.change ≠ b.change → ∀ x ∈ a.cidrs, x ∉ b.cidrs))

theorem operation_eq :
    a.operation s = Membership.changeIngress s a.change a.ranges a.fromPort a.toPort := by
  obtain ⟨change, cidrs, fromPort, toPort⟩ := a
  cases change with
  | authorize => rfl
  | revoke => rfl

/-- **A list of permissions after some requests of a change.** -/
structure Evolves (ps ps' : List IngressRule) : Prop where
  changed : ∃ cidrs : CidrSet, (∀ x ∈ cidrs, x ∈ a.ranges) ∧ Changed a.change a.slot cidrs ps ps'
  others : ∀ keep : Slot → Bool, keep a.slot = false →
    ps'.filter (fun p => keep p.slot) = ps.filter fun p => keep p.slot

variable {s a b} {ps ps' : List IngressRule} {x : String}

theorem Evolves.refl (hd : DistinctSlots ps) : a.Evolves ps ps := by
  refine ⟨⟨.empty, fun x hx => absurd hx (CidrSet.not_mem_empty x), ?_⟩, fun _ _ => rfl⟩
  exact .of_settled hd fun x hx => absurd hx (CidrSet.not_mem_empty x)

theorem Evolves.distinct (h : a.Evolves ps ps') : DistinctSlots ps' := by
  obtain ⟨_, _, hchanged⟩ := h.changed
  exact hchanged.distinct

/-- **What one change has settled stays settled** under changes that do not contradict it. -/
theorem Evolves.settled (h : a.Evolves ps ps') (hab : a.Compatible b) (hx : x ∈ b.ranges)
    (hsettled : b.SettledIn ps x) : b.SettledIn ps' x := by
  obtain ⟨cidrs, hcidrs, hchanged⟩ := h.changed
  by_cases hslot : a.slot = b.slot
  · rw [SettledIn, ← hslot, hchanged.ranges]
    rw [SettledIn, ← hslot] at hsettled
    by_cases hchange : a.change = b.change
    · rw [hchange]
      cases hb : b.change with
      | authorize =>
          rw [hb] at hsettled
          exact CidrSet.mem_union.2 (Or.inl hsettled)
      | revoke =>
          rw [hb] at hsettled
          exact fun hmem => hsettled (CidrSet.mem_diff.1 hmem).1
    · -- the address range is none of those of the other change
      have hnot : x ∉ cidrs := fun hmem => by
        have ha : x ∈ a.cidrs := CidrSet.mem_ofList.1 (hcidrs x hmem)
        exact hab hslot hchange x ha (CidrSet.mem_ofList.1 hx)
      cases ha : a.change with
      | authorize =>
          have hb : b.change = .revoke := by
            cases hb : b.change with
            | authorize => exact absurd (ha.trans hb.symm) hchange
            | revoke => rfl
          rw [hb] at hsettled ⊢
          exact fun hmem => (CidrSet.mem_union.1 hmem).elim hsettled hnot
      | revoke =>
          have hb : b.change = .authorize := by
            cases hb : b.change with
            | authorize => rfl
            | revoke => exact absurd (ha.trans hb.symm) hchange
          rw [hb] at hsettled ⊢
          exact CidrSet.mem_diff.2 ⟨hsettled, hnot⟩
  · rw [SettledIn, hchanged.others b.slot (Ne.symm hslot)]
    exact hsettled

/-- A change does not contradict itself. -/
theorem Compatible.refl (a : AclChange) : a.Compatible a := fun _ hne => absurd rfl hne

/-- **One request of a change**: it is settled, or it is refused because one of its address ranges
is settled already. -/
theorem request_cases {c : Cloud} {w : Surroundings s.aclGroupName} (h : c.Serves w ps)
    (hd : DistinctSlots ps) {cidrs : CidrSet} (hne : cidrs.isEmpty = false)
    (hsub : ∀ x ∈ cidrs, x ∈ a.ranges) :
    (∃ c' ps', c.changeIngress a.change s.aclGroupName (.tcp cidrs a.fromPort a.toPort) =
        (.ok (), c') ∧ c'.Serves w ps' ∧ a.Evolves ps ps' ∧ ∀ x ∈ cidrs, a.SettledIn ps' x) ∨
    (∃ c' text, c.changeIngress a.change s.aclGroupName (.tcp cidrs a.fromPort a.toPort) =
        (.error (a.change.refusal text), c') ∧ c'.Serves w ps ∧
        ∃ x ∈ cidrs, a.SettledIn ps x) := by
  rcases a.change.applyTo_cases (r := .tcp cidrs a.fromPort a.toPort) hd hne with
    ⟨_, ps', ha, hchanged⟩ | ⟨hsettled, text, ha⟩
  · obtain ⟨c', heq, hs⟩ := h.changeIngress_ok ha
    refine Or.inl ⟨c', ps', heq, hs, ⟨⟨cidrs, hsub, hchanged⟩, fun keep hkeep => ?_⟩,
      fun x hx => ?_⟩
    · exact IngressChange.applyTo_filter ha hkeep
    · have hranges : rangesOf a.slot ps' = a.change.on (rangesOf a.slot ps) cidrs :=
        hchanged.ranges
      rw [SettledIn, hranges]
      cases a.change with
      | authorize => exact CidrSet.mem_union.2 (Or.inr hx)
      | revoke => exact fun hmem => (CidrSet.mem_diff.1 hmem).2 hx
  · obtain ⟨c', heq, hs⟩ := h.changeIngress_error ha
    exact Or.inr ⟨c', text, heq, hs, hsettled⟩

end AclChange

/-! ### How far a change is -/

/-- **How far a change is**, and the turns that it has left at the latest: it waits for its client,
it asks for the change as a whole, it asks again for some address ranges, the others being settled,
it tells that all is settled, or it has succeeded and all is settled. -/
inductive Stands (s : MembershipSettings) (a : AclChange) (ps : List IngressRule) :
    Progress Unit → Nat → Prop
  | waiting : Stands s a ps (.waiting (a.operation s)) a.turns
  | asking (lease : Lease) (hne : a.ranges.isEmpty = false) :
      Stands s a ps (.working lease (Membership.changePlan a.change s.aclGroupName a.ranges
        a.fromPort a.toPort) [.info "Updated ACL"]) (a.ranges.elements.length + 2)
  | retrying (lease : Lease) (rest : List String) (hrest : ∀ x ∈ rest, x ∈ a.ranges)
      (hsettled : ∀ x ∈ a.ranges, x ∈ rest ∨ a.SettledIn ps x) :
      Stands s a ps (.working lease (Membership.changeEach a.change s.aclGroupName
        a.fromPort a.toPort rest) [.info "Updated ACL"]) (rest.length + 1)
  | telling (lease : Lease) (line : LogLine) (hsettled : ∀ x ∈ a.ranges, a.SettledIn ps x) :
      Stands s a ps (.working lease (.report line (.done (.ok ()))) [.info "Updated ACL"]) 2
  | ended (hsettled : ∀ x ∈ a.ranges, a.SettledIn ps x) : Stands s a ps (.ended (.ok ())) 0

namespace Stands

variable {s : MembershipSettings} {a b : AclChange} {ps ps' : List IngressRule}
  {p : Progress Unit} {n : Nat}

/-- A change that is settled and has only its client to release. -/
theorem closing (lease : Lease) (hsettled : ∀ x ∈ a.ranges, a.SettledIn ps x) :
    Stands s a ps (.working lease (.done (.ok ())) [.info "Updated ACL"]) 1 :=
  .retrying lease [] (fun _ hx => absurd hx List.not_mem_nil) fun x hx => Or.inr (hsettled x hx)

/-- **Requests of another change leave a change where it is.** -/
theorem evolve (h : Stands s b ps p n) (hab : a.Compatible b) (he : a.Evolves ps ps') :
    Stands s b ps' p n := by
  cases h with
  | waiting => exact .waiting
  | asking lease hne => exact .asking lease hne
  | retrying lease rest hrest hsettled =>
      refine .retrying lease rest hrest fun x hx => ?_
      exact (hsettled x hx).imp_right (he.settled hab hx)
  | telling lease line hsettled =>
      exact .telling lease line fun x hx => he.settled hab hx (hsettled x hx)
  | ended hsettled => exact .ended fun x hx => he.settled hab hx (hsettled x hx)

variable {c : Cloud} {w : Surroundings s.aclGroupName}

/-- What a turn of a change does: the change is further, and the permissions evolve. -/
def Turn (s : MembershipSettings) (a : AclChange) (w : Surroundings s.aclGroupName)
    (ps : List IngressRule) (n : Nat) (after : Progress Unit × Cloud) : Prop :=
  ∃ ps' n', after.2.Serves w ps' ∧ Stands s a ps' after.1 n' ∧ n' ≤ n - 1 ∧ a.Evolves ps ps'

/-- The turn of a change that has not begun opens its client, if there is anything to change. -/
theorem turn_waiting (h : c.Serves w ps) (hd : DistinctSlots ps) :
    Turn s a w ps a.turns ((Progress.waiting (a.operation s)).turn c) := by
  rw [AclChange.operation_eq, Membership.changeIngress]
  cases hne : a.ranges.isEmpty with
  | true =>
      refine ⟨ps, 0, h, .ended fun x hx => ?_, Nat.zero_le _, .refl hd⟩
      exact absurd hx (CidrSet.isEmpty_iff.1 hne x)
  | false =>
      obtain ⟨lease, c', hopen, hs⟩ := h.open s.ec2Endpoint
      simp only [Bool.false_eq_true, if_false, Progress.turn, hopen]
      exact ⟨ps, _, hs, .asking lease hne, Nat.le_refl _, .refl hd⟩

/-- The turn of a change that asks for the whole. -/
theorem turn_asking (h : c.Serves w ps) (hd : DistinctSlots ps) (lease : Lease)
    (hne : a.ranges.isEmpty = false) :
    Turn s a w ps (a.ranges.elements.length + 2) ((Progress.working lease
      (Membership.changePlan a.change s.aclGroupName a.ranges a.fromPort a.toPort)
      [.info "Updated ACL"]).turn c) := by
  have hlength : 0 < a.ranges.elements.length := by
    obtain ⟨x, hx⟩ := CidrSet.exists_mem_of_not_isEmpty hne
    exact List.length_pos_of_mem hx
  rw [Membership.changePlan, Progress.turn_changeIngress]
  rcases AclChange.request_cases h hd hne fun x hx => hx with
    ⟨c', ps', heq, hs, he, hsettled⟩ | ⟨c', text, heq, hs, x, hx, hsettled⟩
  · rw [heq]
    exact ⟨ps', 1, hs, closing lease hsettled, by omega, he⟩
  · rw [heq]
    simp only [Membership.alreadySettled_refusal, if_true]
    by_cases hlen : 1 < a.ranges.elements.length
    · rw [if_pos hlen]
      refine ⟨ps, _, hs, .retrying lease a.ranges.elements (fun x hx => hx) fun x hx => ?_,
        Nat.le_refl _, .refl hd⟩
      exact Or.inl hx
    · -- the only address range is the one that is settled
      rw [if_neg hlen]
      refine ⟨ps, 2, hs, .telling lease _ fun y hy => ?_, by omega, .refl hd⟩
      obtain ⟨z, hz⟩ := CidrSet.exists_singleton hne (Nat.not_lt.1 hlen)
      rw [hz, CidrSet.mem_singleton] at hx hy
      rwa [hy, ← hx]

/-- The turn of a change that asks again for some address ranges. -/
theorem turn_retrying (h : c.Serves w ps) (hd : DistinctSlots ps) (lease : Lease)
    (rest : List String) (hrest : ∀ x ∈ rest, x ∈ a.ranges)
    (hsettled : ∀ x ∈ a.ranges, x ∈ rest ∨ a.SettledIn ps x) :
    Turn s a w ps (rest.length + 1) ((Progress.working lease
      (Membership.changeEach a.change s.aclGroupName a.fromPort a.toPort rest)
      [.info "Updated ACL"]).turn c) := by
  cases rest with
  | nil =>
      have hs : ((c.finish lease true).report (.info "Updated ACL")).Serves w ps :=
        (h.finish lease true).report _
      refine ⟨ps, 0, hs, .ended fun x hx => ?_, Nat.zero_le _, .refl hd⟩
      exact (hsettled x hx).resolve_left List.not_mem_nil
  | cons cidr rest =>
      have hcidr : ∀ x ∈ CidrSet.singleton cidr, x ∈ a.ranges := fun x hx => by
        rw [CidrSet.mem_singleton.1 hx]
        exact hrest cidr List.mem_cons_self
      have hrest' : ∀ x ∈ rest, x ∈ a.ranges := fun x hx => hrest x (List.mem_cons_of_mem _ hx)
      rw [Membership.changeEach, Progress.turn_changeIngress]
      rcases AclChange.request_cases h hd rfl hcidr with
        ⟨c', ps', heq, hs, he, hnow⟩ | ⟨c', text, heq, hs, x, hx, hnow⟩
      · rw [heq]
        refine ⟨ps', _, hs, .retrying lease rest hrest' fun x hx => ?_, Nat.le_refl _, he⟩
        rcases hsettled x hx with hmem | hset
        · rcases List.mem_cons.1 hmem with rfl | hmem
          · exact Or.inr (hnow x (CidrSet.mem_singleton.2 rfl))
          · exact Or.inl hmem
        · exact Or.inr (he.settled (.refl a) hx hset)
      · rw [heq]
        simp only [Membership.alreadySettled_refusal, if_true]
        refine ⟨ps, _, hs, .retrying lease rest hrest' fun y hy => ?_, Nat.le_refl _, .refl hd⟩
        rcases hsettled y hy with hmem | hset
        · rcases List.mem_cons.1 hmem with rfl | hmem
          · rw [CidrSet.mem_singleton.1 hx] at hnow
            exact Or.inr hnow
          · exact Or.inl hmem
        · exact Or.inr hset

/-- **One turn of a change** brings it further, by requests of its own only. -/
theorem turn (h : Stands s a ps p n) (hc : c.Serves w ps) (hd : DistinctSlots ps) :
    Turn s a w ps n (p.turn c) := by
  cases h with
  | waiting => exact turn_waiting hc hd
  | asking lease hne => exact turn_asking hc hd lease hne
  | retrying lease rest hrest hsettled => exact turn_retrying hc hd lease rest hrest hsettled
  | telling lease line hsettled =>
      exact ⟨ps, 1, hc.report line, closing lease hsettled, Nat.le_refl _, .refl hd⟩
  | ended hsettled => exact ⟨ps, 0, hc, .ended hsettled, Nat.le_refl _, .refl hd⟩

/-- A change that is at its end has succeeded, and all is settled. -/
theorem eq_ok {result : Except MembershipError Unit} (h : Stands s a ps (.ended result) n) :
    result = .ok () ∧ ∀ x ∈ a.ranges, a.SettledIn ps x := by
  cases h with
  | ended hsettled => exact ⟨rfl, hsettled⟩

/-- A change without turns left is at its end. -/
theorem ended_of_zero (h : Stands s a ps p 0) : p = .ended (.ok ()) := by
  generalize hzero : 0 = n at h
  cases h with
  | waiting => cases hzero
  | asking => cases hzero
  | retrying => cases hzero
  | telling => cases hzero
  | ended => rfl

end Stands

/-! ### Several changes -/

/-- The address ranges that some changes add to a slot, or remove from it. -/
def requested (change : IngressChange) (slot : Slot) (calls : List AclChange) : CidrSet :=
  .ofList ((calls.filter fun a => decide (a.change = change ∧ a.slot = slot)).flatMap
    AclChange.cidrs)

theorem mem_requested {change : IngressChange} {slot : Slot} {calls : List AclChange} {x : String} :
    x ∈ requested change slot calls ↔
      ∃ a ∈ calls, a.change = change ∧ a.slot = slot ∧ x ∈ a.ranges := by
  rw [requested, CidrSet.mem_ofList, List.mem_flatMap]
  simp only [List.mem_filter, decide_eq_true_eq, AclChange.ranges, CidrSet.mem_ofList, and_assoc]

/-- **A list of permissions after some requests of several changes**: what is new was added, what
is gone was removed, and the rules of other slots are where they were. -/
structure Reached (calls : List AclChange) (ps₀ ps : List IngressRule) : Prop where
  came : ∀ slot, ∀ x ∈ rangesOf slot ps,
    x ∈ rangesOf slot ps₀ ∨ x ∈ requested .authorize slot calls
  went : ∀ slot, ∀ x ∈ rangesOf slot ps₀,
    x ∈ rangesOf slot ps ∨ x ∈ requested .revoke slot calls
  others : ∀ keep : Slot → Bool, (∀ a ∈ calls, keep a.slot = false) →
    ps.filter (fun p => keep p.slot) = ps₀.filter fun p => keep p.slot

section Calls

variable {calls : List AclChange} {a : AclChange} {ps₀ ps ps' : List IngressRule}

theorem Reached.refl (calls : List AclChange) (ps : List IngressRule) : Reached calls ps ps :=
  ⟨fun _ _ hx => Or.inl hx, fun _ _ hx => Or.inl hx, fun _ _ => rfl⟩

/-- A request of one of the changes more. -/
theorem Reached.evolve (h : Reached calls ps₀ ps) (ha : a ∈ calls) (he : a.Evolves ps ps') :
    Reached calls ps₀ ps' := by
  obtain ⟨cidrs, hcidrs, hchanged⟩ := he.changed
  have hrequested : ∀ x ∈ cidrs, x ∈ requested a.change a.slot calls :=
    fun x hx => mem_requested.2 ⟨a, ha, rfl, rfl, hcidrs x hx⟩
  refine ⟨fun slot x hx => ?_, fun slot x hx => ?_, fun keep hkeep => ?_⟩
  · by_cases hslot : slot = a.slot
    · subst hslot
      rw [hchanged.ranges] at hx
      cases hchange : a.change with
      | authorize =>
          rw [hchange] at hx hrequested
          rcases CidrSet.mem_union.1 hx with hx | hx
          · exact h.came _ x hx
          · exact Or.inr (hrequested x hx)
      | revoke =>
          rw [hchange] at hx
          exact h.came _ x (CidrSet.mem_diff.1 hx).1
    · rw [hchanged.others slot hslot] at hx
      exact h.came slot x hx
  · rcases h.went slot x hx with hx | hx
    · by_cases hslot : slot = a.slot
      · subst hslot
        rw [hchanged.ranges]
        cases hchange : a.change with
        | authorize => exact Or.inl (CidrSet.mem_union.2 (Or.inl hx))
        | revoke =>
            rw [hchange] at hrequested
            by_cases hmem : x ∈ cidrs
            · exact Or.inr (hrequested x hmem)
            · exact Or.inl (CidrSet.mem_diff.2 ⟨hx, hmem⟩)
      · rw [hchanged.others slot hslot]
        exact Or.inl hx
    · exact Or.inr hx
  · rw [he.others keep (hkeep a ha), h.others keep hkeep]

/-- **What the changes make of a slot** when all of them are settled. -/
theorem Reached.ranges_eq (h : Reached calls ps₀ ps)
    (hsettled : ∀ a ∈ calls, ∀ x ∈ a.ranges, a.SettledIn ps x) (slot : Slot) :
    rangesOf slot ps = ((rangesOf slot ps₀).union (requested .authorize slot calls)).diff
      (requested .revoke slot calls) := by
  refine CidrSet.ext fun x => ?_
  rw [CidrSet.mem_diff, CidrSet.mem_union]
  constructor
  · intro hx
    refine ⟨h.came slot x hx, fun hremoved => ?_⟩
    obtain ⟨a, ha, hchange, rfl, hxa⟩ := mem_requested.1 hremoved
    have hgone := hsettled a ha x hxa
    rw [AclChange.SettledIn, hchange] at hgone
    exact hgone hx
  · rintro ⟨hx | hx, hkept⟩
    · exact (h.went slot x hx).resolve_right hkept
    · obtain ⟨a, ha, hchange, rfl, hxa⟩ := mem_requested.1 hx
      have hthere := hsettled a ha x hxa
      rwa [AclChange.SettledIn, hchange] at hthere

end Calls

/-- **Several changes under way**: each of them is somewhere on its way, with the turns that it has
left at the latest, and the permissions are those after some of their requests. -/
structure Underway (s : MembershipSettings) (w : Surroundings s.aclGroupName)
    (calls : List AclChange) (ps₀ : List IngressRule) (left : Nat → Nat)
    (pool : List (Progress Unit)) (c : Cloud) (ps : List IngressRule) : Prop where
  serves : c.Serves w ps
  distinct : DistinctSlots ps
  reached : Reached calls ps₀ ps
  length : pool.length = calls.length
  stands : ∀ (i : Nat) (a : AclChange) (p : Progress Unit), calls[i]? = some a →
    pool[i]? = some p → ∃ n ≤ left i, Stands s a ps p n

namespace Underway

variable {s : MembershipSettings} {w : Surroundings s.aclGroupName} {calls : List AclChange}
  {ps₀ ps : List IngressRule} {left : Nat → Nat} {pool : List (Progress Unit)} {c : Cloud}

/-- Changes that have not begun. -/
theorem start (calls : List AclChange) (h : c.Serves w ps) (hd : DistinctSlots ps) :
    Underway s w calls ps (fun i => (calls[i]?.map AclChange.turns).getD 0)
      (calls.map fun a => .waiting (a.operation s)) c ps := by
  refine ⟨h, hd, .refl calls ps, List.length_map _, fun i a p ha hp => ⟨a.turns, ?_, ?_⟩⟩
  · simp [ha]
  · rw [List.getElem?_map, ha] at hp
    rw [← Option.some.inj hp]
    exact .waiting

/-- Each place in the pool is that of a change. -/
theorem exists_call (h : Underway s w calls ps₀ left pool c ps) {i : Nat} {p : Progress Unit}
    (hp : pool[i]? = some p) : ∃ a, calls[i]? = some a := by
  have hlt := (List.getElem?_eq_some_iff.1 hp).1
  rw [h.length] at hlt
  exact ⟨calls[i], List.getElem?_eq_getElem hlt⟩

/-- Each change has a place in the pool. -/
theorem exists_progress (h : Underway s w calls ps₀ left pool c ps) {i : Nat} {a : AclChange}
    (ha : calls[i]? = some a) : ∃ p, pool[i]? = some p := by
  have hlt := (List.getElem?_eq_some_iff.1 ha).1
  rw [← h.length] at hlt
  exact ⟨pool[i], List.getElem?_eq_getElem hlt⟩

/-- **The turn of one change** leaves the others where they are. -/
theorem takeTurn (h : Underway s w calls ps₀ left pool c ps)
    (hcompatible : ∀ a ∈ calls, ∀ b ∈ calls, a.Compatible b) (i : Nat) :
    ∃ ps', Underway s w calls ps₀ (fun j => left j - if i = j then 1 else 0)
      (takeTurn i pool c).1 (takeTurn i pool c).2 ps' := by
  cases hi : pool[i]? with
  | none =>
      rw [takeTurn_of_none hi]
      refine ⟨ps, h.serves, h.distinct, h.reached, h.length, fun j a p ha hp => ?_⟩
      have hne : i ≠ j := by
        rintro rfl
        rw [hi] at hp
        cases hp
      simpa only [if_neg hne, Nat.sub_zero] using h.stands j a p ha hp
  | some p =>
      obtain ⟨a, ha⟩ := h.exists_call hi
      have hmem := List.mem_of_getElem? ha
      obtain ⟨n, hn, hstands⟩ := h.stands i a p ha hi
      obtain ⟨ps', n', hs, hstands', hn', he⟩ := hstands.turn h.serves h.distinct
      refine ⟨ps', ?_, he.distinct, h.reached.evolve hmem he, ?_, fun j b q hb hq => ?_⟩
      · rw [takeTurn_of_getElem? hi]
        exact hs
      · rw [takeTurn_of_getElem? hi, List.length_set]
        exact h.length
      · by_cases hij : i = j
        · subst hij
          rw [getElem?_takeTurn_self hi] at hq
          obtain rfl := Option.some.inj hq
          obtain rfl : a = b := Option.some.inj (ha.symm.trans hb)
          refine ⟨n', ?_, hstands'⟩
          rw [if_pos rfl]
          omega
        · rw [getElem?_takeTurn_of_ne hij] at hq
          obtain ⟨m, hm, hother⟩ := h.stands j b q hb hq
          refine ⟨m, ?_, hother.evolve (hcompatible a hmem b (List.mem_of_getElem? hb)) he⟩
          rwa [if_neg hij, Nat.sub_zero]

/-- **Any number of turns.** -/
theorem takeTurns (hcompatible : ∀ a ∈ calls, ∀ b ∈ calls, a.Compatible b) (schedule : List Nat)
    (h : Underway s w calls ps₀ left pool c ps) :
    ∃ ps', Underway s w calls ps₀ (fun i => left i - schedule.count i)
      (takeTurns schedule pool c).1 (takeTurns schedule pool c).2 ps' := by
  induction schedule generalizing left pool c ps with
  | nil => exact ⟨ps, h⟩
  | cons i schedule ih =>
      obtain ⟨ps₁, h₁⟩ := h.takeTurn hcompatible i
      obtain ⟨ps₂, h₂⟩ := ih h₁
      refine ⟨ps₂, ?_⟩
      have hleft : (fun j => left j - (i :: schedule).count j) =
          fun j => left j - (if i = j then 1 else 0) - schedule.count j := by
        funext j
        rw [List.count_cons]
        simp only [beq_iff_eq]
        omega
      rw [hleft]
      exact h₂

end Underway

/-- **Changes that run at the same time lose nothing.**  Let no failure be asked for, let the
security group of the ring be there with rules of distinct slots, and let no two of the changes
contradict each other.  Then, whatever the schedule:

* every change that is at its end has succeeded;
* a change that has had a turn for its client, for its whole request, for each of its address ranges
  and for the release is at its end;
* when all changes are at their ends, each slot has the address ranges that it had, with those
  added, without those removed; the slots are distinct, the rules of the slots that no change means
  are where they were, and so is all around the group. -/
theorem concurrent_changes_lose_nothing (s : MembershipSettings) {c : Cloud} (hc : c.Steady)
    {g : SecurityGroup} (hg : c.store.securityGroup? s.aclGroupName = some g)
    (hd : DistinctSlots g.permissions) {calls : List AclChange}
    (hcompatible : ∀ a ∈ calls, ∀ b ∈ calls, a.Compatible b) (schedule : List Nat) :
    let after := takeTurns schedule (calls.map fun a => .waiting (a.operation s)) c
    (∀ result, .ended result ∈ after.1 → result = .ok ()) ∧
    (∀ (i : Nat) (a : AclChange), calls[i]? = some a → a.turns ≤ schedule.count i →
      after.1[i]? = some (.ended (.ok ()))) ∧
    ((∀ (i : Nat) (a : AclChange), calls[i]? = some a →
        ∃ result, after.1[i]? = some (.ended result)) →
      ∃ (w : Surroundings s.aclGroupName) (ps : List IngressRule),
        c.store = w.store g.permissions ∧ after.2.store = w.store ps ∧ DistinctSlots ps ∧
        (∀ slot, rangesOf slot ps = ((rangesOf slot g.permissions).union
          (requested .authorize slot calls)).diff (requested .revoke slot calls)) ∧
        ps.filter (fun p => p.slot ∉ calls.map AclChange.slot) =
          g.permissions.filter fun p => p.slot ∉ calls.map AclChange.slot) := by
  intro after
  obtain ⟨w, hw⟩ := Surroundings.exists_store hg
  obtain ⟨ps, h⟩ := (Underway.start calls ⟨hc, hw⟩ hd).takeTurns hcompatible schedule
  refine ⟨fun result hresult => ?_, fun i a ha hturns => ?_, fun hall => ?_⟩
  · obtain ⟨i, hi⟩ := List.mem_iff_getElem?.1 hresult
    obtain ⟨a, ha⟩ := h.exists_call hi
    obtain ⟨n, _, hstands⟩ := h.stands i a _ ha hi
    exact hstands.eq_ok.1
  · obtain ⟨p, hp⟩ := h.exists_progress ha
    obtain ⟨n, hn, hstands⟩ := h.stands i a p ha hp
    obtain rfl : n = 0 := by
      simp only [ha, Option.map_some, Option.getD_some] at hn
      omega
    rw [hp, hstands.ended_of_zero]
  · have hsettled : ∀ a ∈ calls, ∀ x ∈ a.ranges, a.SettledIn ps x := fun a ha => by
      obtain ⟨i, hi⟩ := List.mem_iff_getElem?.1 ha
      obtain ⟨result, hp⟩ := hall i a hi
      obtain ⟨n, _, hstands⟩ := h.stands i a _ hi hp
      exact hstands.eq_ok.2
    refine ⟨w, ps, hw, h.serves.store, h.distinct, h.reached.ranges_eq hsettled, ?_⟩
    refine h.reached.others (fun slot => decide (slot ∉ calls.map AclChange.slot)) fun a ha => ?_
    simpa using ⟨a, ha, rfl⟩

/-- A removal that gets in between the requests of an addition which is partly settled already. -/
theorem concurrent_changes_lose_nothing_of_two :
    let s : MembershipSettings := ⟨"ring", none, ["a"], "acl", "dc"⟩
    let g : SecurityGroup := ⟨"acl", [.tcp (.singleton "10.0.0.1/32") 7000 7001,
      ⟨"udp", 7000, 7001, .singleton "::/0"⟩]⟩
    let c : Cloud := { store := ⟨[], [g]⟩ }
    let calls : List AclChange := [⟨.authorize, ["10.0.0.3/32", "10.0.0.2/32"], 7000, 7001⟩,
      ⟨.revoke, ["10.0.0.1/32"], 7000, 7001⟩, ⟨.authorize, ["10.0.0.2/32"], 7000, 7001⟩]
    let schedule := [2, 2, 0, 1, 0, 1, 0, 1, 1, 0, 0, 2, 2]
    let after := takeTurns schedule (calls.map fun a => .waiting (a.operation s)) c
    c.Steady ∧ c.store.securityGroup? s.aclGroupName = some g ∧ DistinctSlots g.permissions ∧
      (∀ a ∈ calls, ∀ b ∈ calls, a.Compatible b) ∧
      ∃ (w : Surroundings s.aclGroupName) (ps : List IngressRule), after.2.store = w.store ps ∧
        ∀ slot, rangesOf slot ps = ((rangesOf slot g.permissions).union
          (requested .authorize slot calls)).diff (requested .revoke slot calls) := by
  intro s g c calls schedule after
  have hc : c.Steady := ⟨rfl, rfl, by simp [c]⟩
  have hg : c.store.securityGroup? s.aclGroupName = some g := by decide
  have hd : DistinctSlots g.permissions := by decide
  have hcompatible : ∀ a ∈ calls, ∀ b ∈ calls, a.Compatible b := by decide
  obtain ⟨-, hends, hsets⟩ :=
    concurrent_changes_lose_nothing s hc hg hd hcompatible schedule
  have hturns : ∀ i < 3, ∀ a, calls[i]? = some a → a.turns ≤ schedule.count i := by decide
  obtain ⟨w, ps, -, hstore, -, hranges, -⟩ := hsets fun i a ha => by
    have hlt : i < 3 := (List.getElem?_eq_some_iff.1 ha).1
    exact ⟨_, hends i a ha (hturns i hlt a ha)⟩
  exact ⟨hc, hg, hd, hcompatible, w, ps, hstore, hranges⟩

end NodeSidecar
