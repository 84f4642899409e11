/-
**What a removal leaves open.**

A request to remove address ranges means the first rule of its slot.  A store may hold more rules of
the slot, which were put there from outside; a removal does not see them, and when the first rule
does not have an address range the provider says that it is not there, which counts as a success.
So a removal that succeeds may leave an address range open: it does so exactly when a rule behind
the first one has it.

Main definitions:

* `shadowedRules` — the rules of a slot behind the first one;
* `Revoked` — a list of permissions after removals from one slot;
* `Store.Allows` — an address range is open on a range of ports.

Main results:

* `revokeIn_settled`, `revokeIn_refused` — what one request does to the rules of its slot;
* `Membership.changeLaw_revoked` — what is gone after all requests of a removal;
* `revokes_iff_unshadowed` — **when every removal that succeeds really removes**;
* `shadowed_range_stays_open` — a removal that succeeds and does not.
-/

import NodeSidecar.Proofs.Membership.Ingress

set_option autoImplicit false

namespace NodeSidecar

/-! ### Rules behind the first one -/

/-- The rules of a slot behind the first one. -/
def shadowedRules (slot : Slot) (ps : List IngressRule) : List IngressRule :=
  (ps.filter fun p => decide (p.slot = slot)).tail

section Shadowed

variable {slot : Slot} {before after ps : List IngressRule} {p : IngressRule}

/-- The rules of other slots do not matter. -/
theorem filter_slot_append (h : slot ∉ before.map IngressRule.slot) (ps : List IngressRule) :
    (before ++ ps).filter (fun p => decide (p.slot = slot)) =
      ps.filter fun p => decide (p.slot = slot) := by
  have hnone : before.filter (fun p => decide (p.slot = slot)) = [] := by
    refine List.filter_eq_nil_iff.2 fun p hp hslot => h ?_
    exact List.mem_map.2 ⟨p, hp, of_decide_eq_true hslot⟩
  rw [List.filter_append, hnone, List.nil_append]

theorem shadowedRules_of_split (after : List IngressRule)
    (h : slot ∉ before.map IngressRule.slot) (hp : p.slot = slot) :
    shadowedRules slot (before ++ p :: after) =
      after.filter fun p => decide (p.slot = slot) := by
  rw [shadowedRules, filter_slot_append h, List.filter_cons_of_pos (by simpa using hp),
    List.tail_cons]

/-- An address range of a slot is one of its first rule or of a shadowed one. -/
theorem mem_rangesOf_split (h : slot ∉ before.map IngressRule.slot) (hp : p.slot = slot)
    {x : String} :
    x ∈ rangesOf slot (before ++ p :: after) ↔
      x ∈ p.cidrs ∨ ∃ q ∈ shadowedRules slot (before ++ p :: after), x ∈ q.cidrs := by
  rw [shadowedRules_of_split after h hp, mem_rangesOf]
  constructor
  · rintro ⟨q, hq, hslot, hx⟩
    rcases List.mem_append.1 hq with hq | hq
    · exact absurd (List.mem_map.2 ⟨q, hq, hslot⟩) h
    · rcases List.mem_cons.1 hq with rfl | hq
      · exact Or.inl hx
      · exact Or.inr ⟨q, List.mem_filter.2 ⟨hq, by simpa using hslot⟩, hx⟩
  · rintro (hx | ⟨q, hq, hx⟩)
    · exact ⟨p, by simp, hp, hx⟩
    · obtain ⟨hq, hslot⟩ := List.mem_filter.1 hq
      exact ⟨q, by simp [hq], of_decide_eq_true hslot, hx⟩

theorem mem_of_mem_shadowedRules (h : p ∈ shadowedRules slot ps) : p ∈ ps ∧ p.slot = slot := by
  obtain ⟨hp, hslot⟩ := List.mem_filter.1 (List.mem_of_mem_tail h)
  exact ⟨hp, of_decide_eq_true hslot⟩

end Shadowed

/-! ### Removals -/

/-- **A list of permissions after removals from one slot**: no rule becomes shadowed, no address
range comes in, and those to be removed are gone unless a shadowed rule has them. -/
structure Revoked (slot : Slot) (cidrs : CidrSet) (ps ps' : List IngressRule) : Prop where
  shadowed : ∀ p ∈ shadowedRules slot ps', p ∈ shadowedRules slot ps
  shrinks : ∀ x ∈ rangesOf slot ps', x ∈ rangesOf slot ps
  gone : ∀ x ∈ cidrs, x ∈ rangesOf slot ps' → ∃ p ∈ shadowedRules slot ps, x ∈ p.cidrs

/-- One removal after another is a removal of the union. -/
theorem Revoked.trans {slot : Slot} {cidrs cidrs' : CidrSet} {ps ps' ps'' : List IngressRule}
    (h : Revoked slot cidrs ps ps') (h' : Revoked slot cidrs' ps' ps'') :
    Revoked slot (cidrs.union cidrs') ps ps'' := by
  refine ⟨fun p hp => h.shadowed p (h'.shadowed p hp),
    fun x hx => h.shrinks x (h'.shrinks x hx), fun x hx hx' => ?_⟩
  rcases CidrSet.mem_union.1 hx with hx | hx
  · exact h.gone x hx (h'.shrinks x hx')
  · obtain ⟨p, hp, hxp⟩ := h'.gone x hx hx'
    exact ⟨p, h.shadowed p hp, hxp⟩

section Removal

variable {r : IngressRule} {ps ps' : List IngressRule}

/-- **A removal that is settled** takes its address ranges out of the first rule of its slot and
leaves the shadowed rules in the list. -/
theorem revokeIn_settled (h : revokeIn r ps = .ok ps') :
    Revoked r.slot r.cidrs ps ps' ∧ ∀ p ∈ shadowedRules r.slot ps, p ∈ ps' := by
  rcases absent_or_split r.slot ps with hab | ⟨before, p, after, rfl, hbefore, hp⟩
  · rw [revokeIn_of_absent hab] at h
    cases h
  · rw [revokeIn_of_split hbefore hp] at h
    split at h
    · next hsub =>
      have hold := shadowedRules_of_split after hbefore hp
      have hafter : ∀ q ∈ after.filter (fun q => decide (q.slot = r.slot)), q ∈ after :=
        fun q hq => (List.mem_filter.1 hq).1
      cases hleft : (p.cidrs.diff r.cidrs).isEmpty with
      | true =>
          -- the first rule goes, and the first shadowed one is in its place
          rw [hleft, if_pos rfl] at h
          obtain rfl := Except.ok.inj h
          have hnew : ∀ x ∈ rangesOf r.slot (before ++ after),
              ∃ q ∈ shadowedRules r.slot (before ++ p :: after), x ∈ q.cidrs := by
            intro x hx
            obtain ⟨q, hq, hslot, hxq⟩ := mem_rangesOf.1 hx
            have hqa : q ∈ after := (List.mem_append.1 hq).resolve_left fun hqb =>
              hbefore (List.mem_map.2 ⟨q, hqb, hslot⟩)
            refine ⟨q, ?_, hxq⟩
            rw [hold]
            exact List.mem_filter.2 ⟨hqa, by simpa using hslot⟩
          refine ⟨⟨fun q hq => ?_, fun x hx => ?_, fun x _ hx => hnew x hx⟩, fun q hq => ?_⟩
          · rw [hold]
            rw [shadowedRules, filter_slot_append hbefore] at hq
            exact List.mem_of_mem_tail hq
          · exact (mem_rangesOf_split hbefore hp).2 (Or.inr (hnew x hx))
          · rw [hold] at hq
            exact List.mem_append_right _ (hafter q hq)
      | false =>
          rw [hleft, if_neg (by simp)] at h
          obtain rfl := Except.ok.inj h
          have hp' : IngressRule.slot { p with cidrs := p.cidrs.diff r.cidrs } = r.slot := hp
          have hnew := shadowedRules_of_split after hbefore hp'
          refine ⟨⟨fun q hq => ?_, fun x hx => ?_, fun x hx hx' => ?_⟩, fun q hq => ?_⟩
          · rwa [hold, ← hnew]
          · refine (mem_rangesOf_split hbefore hp).2 ?_
            rcases (mem_rangesOf_split hbefore hp').1 hx with hx | hx
            · exact Or.inl (CidrSet.mem_diff.1 hx).1
            · rw [hnew, ← hold] at hx
              exact Or.inr hx
          · rcases (mem_rangesOf_split hbefore hp').1 hx' with hx' | hx'
            · exact absurd hx (CidrSet.mem_diff.1 hx').2
            · rwa [hnew, ← hold] at hx'
          · rw [hold] at hq
            exact List.mem_append_right _ (List.mem_cons_of_mem _ (hafter q hq))
    · cases h

/-- **A removal that is refused** names an address range that the first rule of the slot does not
have; a shadowed rule may still have it. -/
theorem revokeIn_refused {e : CloudError} (hne : r.cidrs.isEmpty = false)
    (h : revokeIn r ps = .error e) :
    ∃ x ∈ r.cidrs, x ∈ rangesOf r.slot ps → ∃ p ∈ shadowedRules r.slot ps, x ∈ p.cidrs := by
  rcases absent_or_split r.slot ps with hab | ⟨before, p, after, rfl, hbefore, hp⟩
  · obtain ⟨x, hx⟩ := CidrSet.exists_mem_of_not_isEmpty hne
    exact ⟨x, hx, fun hx' => absurd hx' (not_mem_rangesOf_of_absent hab x)⟩
  · rw [revokeIn_of_split hbefore hp] at h
    split at h
    · cases h
    · next hsub =>
      rw [CidrSet.subset_iff] at hsub
      obtain ⟨x, hx⟩ := not_forall.1 hsub
      obtain ⟨hxr, hxp⟩ := Classical.not_imp.1 hx
      exact ⟨x, hxr, fun hx' => ((mem_rangesOf_split hbefore hp).1 hx').resolve_left hxp⟩

end Removal

/-- Whatever rules there are, a removal obeys `Revoked`. -/
theorem Membership.changeLaw_revoked (fromPort toPort : UInt16) :
    ChangeLaw .revoke fromPort toPort (fun _ => True) (Revoked (tcpSlot fromPort toPort)) where
  none _ := ⟨fun _ hp => hp, fun _ hx => hx, fun x hx => absurd hx (CidrSet.not_mem_empty x)⟩
  settled _ _ ha := ⟨trivial, (revokeIn_settled ha).1⟩
  refused {cidr ps e} _ ha := by
    obtain ⟨x, hx, hgone⟩ := revokeIn_refused (r := .tcp (.singleton cidr) fromPort toPort) rfl ha
    obtain rfl : x = cidr := CidrSet.mem_singleton.1 hx
    refine ⟨fun _ hp => hp, fun _ hx => hx, fun y hy => ?_⟩
    obtain rfl : y = x := CidrSet.mem_singleton.1 hy
    exact hgone
  trans h h' := h.trans h'

/-! ### What is open -/

/-- **An address range is open on a range of ports**: a TCP rule of exactly these ports in the first
security group of the name has it. -/
def Store.Allows (s : Store) (group : String) (fromPort toPort : UInt16) (cidr : String) : Prop :=
  ∃ g, s.securityGroup? group = some g ∧
    ∃ p ∈ g.permissions, p.slot = Membership.tcpSlot fromPort toPort ∧ cidr ∈ p.cidrs

instance (s : Store) (group : String) (fromPort toPort : UInt16) (cidr : String) :
    Decidable (s.Allows group fromPort toPort cidr) :=
  inferInstanceAs (Decidable (∃ g, g ∈ s.securityGroup? group ∧ ∃ p ∈ g.permissions,
    p.slot = Membership.tcpSlot fromPort toPort ∧ cidr ∈ p.cidrs))

theorem Surroundings.allows_store {name : String} (w : Surroundings name) (ps : List IngressRule)
    {fromPort toPort : UInt16} {cidr : String} :
    (w.store ps).Allows name fromPort toPort cidr ↔
      cidr ∈ rangesOf (Membership.tcpSlot fromPort toPort) ps := by
  simp [Store.Allows, mem_rangesOf]

namespace Membership

variable {c : Cloud}

/-- Without the group no removal of an address range succeeds. -/
theorem removeIngress_without_group (s : MembershipSettings) (hc : c.Steady)
    (hg : c.store.securityGroup? s.aclGroupName = none) {cidrs : List String} {cidr : String}
    (hcidr : cidr ∈ cidrs) (fromPort toPort : UInt16) :
    ((removeIngress s cidrs fromPort toPort).run c).1 ≠ .ok () := by
  have hne : (CidrSet.ofList cidrs).isEmpty = false := by
    by_contra he
    exact CidrSet.isEmpty_iff.1 (by simpa using he) cidr (CidrSet.mem_ofList.2 hcidr)
  obtain ⟨c', hrun, _⟩ := changeIngress_without_group s hc hg .revoke hne fromPort toPort
  rw [removeIngress, hrun]
  exact fun h => by cases h

/-- **The removal of one address range** succeeds and is one request, which is settled or changes
nothing. -/
theorem removeOne_run (s : MembershipSettings) {w : Surroundings s.aclGroupName}
    {ps : List IngressRule} (h : c.Serves w ps) (cidr : String) (fromPort toPort : UInt16) :
    ∃ c' ps', (removeIngress s [cidr] fromPort toPort).run c = (.ok (), c') ∧ c'.Serves w ps' ∧
      (revokeIn (.tcp (.ofList [cidr]) fromPort toPort) ps = .ok ps' ∨ ps' = ps) := by
  have hne : (CidrSet.ofList [cidr]).isEmpty = false := rfl
  rw [removeIngress, changeIngress, if_neg (by simp [hne])]
  refine run_leased h fun c hc => ?_
  cases ha : IngressChange.revoke.applyTo (.tcp (.ofList [cidr]) fromPort toPort) ps with
  | ok ps' =>
      obtain ⟨c', heq, hs⟩ := hc.changeIngress_ok ha
      refine ⟨c', ps', ?_, hs, Or.inl ha⟩
      rw [changePlan, Plan.run, heq]
      rfl
  | error e =>
      obtain ⟨text, rfl⟩ := applyTo_error ha
      obtain ⟨c', heq, hs⟩ := hc.changeIngress_error ha
      refine ⟨c'.report (.info "ACL already in requested state"), ps, ?_, hs.report _, Or.inr rfl⟩
      rw [changePlan, Plan.run, heq]
      simp only [alreadySettled_refusal, if_true]
      rfl

/-- The removal of one address range leaves it open when a shadowed rule has it. -/
theorem removeOne_shadowed (s : MembershipSettings) {w : Surroundings s.aclGroupName}
    {ps : List IngressRule} (h : c.Serves w ps) {cidr : String} {fromPort toPort : UInt16}
    {p : IngressRule} (hp : p ∈ shadowedRules (tcpSlot fromPort toPort) ps)
    (hcidr : cidr ∈ p.cidrs) :
    ∃ c', (removeIngress s [cidr] fromPort toPort).run c = (.ok (), c') ∧
      c'.store.Allows s.aclGroupName fromPort toPort cidr := by
  obtain ⟨c', ps', hrun, hs, hps'⟩ := removeOne_run s h cidr fromPort toPort
  obtain ⟨hpps, hslot⟩ := mem_of_mem_shadowedRules hp
  have hkept : p ∈ ps' := by
    rcases hps' with hsettled | rfl
    · exact (revokeIn_settled hsettled).2 p hp
    · exact hpps
  refine ⟨c', hrun, ?_⟩
  rw [hs.store, w.allows_store]
  exact mem_rangesOf.2 ⟨p, hkept, hslot, hcidr⟩

end Membership

/-- **When every removal that succeeds really removes.**  Let no failure be asked for.  Then for
every store, whatever rules the group of the ring has, and for every range of ports:

* a removal leaves open only what a rule behind the first one has;
* after every removal that succeeds none of its address ranges is open, if and only if no TCP rule
  of the range of ports behind the first one has an address range. -/
theorem revokes_iff_unshadowed (s : MembershipSettings) {c : Cloud} (hc : c.Steady)
    (fromPort toPort : UInt16) :
    (∀ cidrs, ∀ x ∈ cidrs,
      ((Membership.removeIngress s cidrs fromPort toPort).run c).1 = .ok () →
      ((Membership.removeIngress s cidrs fromPort toPort).run c).2.store.Allows s.aclGroupName
        fromPort toPort x →
      ∃ g, c.store.securityGroup? s.aclGroupName = some g ∧
        ∃ p ∈ shadowedRules (Membership.tcpSlot fromPort toPort) g.permissions, x ∈ p.cidrs) ∧
    ((∀ cidrs, ((Membership.removeIngress s cidrs fromPort toPort).run c).1 = .ok () →
        ∀ x ∈ cidrs, ¬ ((Membership.removeIngress s cidrs fromPort toPort).run c).2.store.Allows
          s.aclGroupName fromPort toPort x) ↔
      ∀ g, c.store.securityGroup? s.aclGroupName = some g →
        ∀ p ∈ shadowedRules (Membership.tcpSlot fromPort toPort) g.permissions,
          ∀ x, x ∉ p.cidrs) := by
  have hleft : ∀ cidrs, ∀ x ∈ cidrs,
      ((Membership.removeIngress s cidrs fromPort toPort).run c).1 = .ok () →
      ((Membership.removeIngress s cidrs fromPort toPort).run c).2.store.Allows s.aclGroupName
        fromPort toPort x →
      ∃ g, c.store.securityGroup? s.aclGroupName = some g ∧
        ∃ p ∈ shadowedRules (Membership.tcpSlot fromPort toPort) g.permissions, x ∈ p.cidrs := by
    intro cidrs x hx hok hopen
    cases hg : c.store.securityGroup? s.aclGroupName with
    | none => exact absurd hok (Membership.removeIngress_without_group s hc hg hx _ _)
    | some g =>
        obtain ⟨w, hw⟩ := Surroundings.exists_store hg
        obtain ⟨c', ps', hrun, hs, _, hrev⟩ :=
          (Membership.changeLaw_revoked fromPort toPort).changeIngress_run s ⟨hc, hw⟩ trivial
            (.ofList cidrs)
        rw [Membership.removeIngress, hrun, hs.store, w.allows_store] at hopen
        exact ⟨g, rfl, hrev.gone x (CidrSet.mem_ofList.2 hx) hopen⟩
  refine ⟨hleft, fun hall g hg p hp x hxp => ?_, fun hclear cidrs hok x hx hopen => ?_⟩
  · -- one removal of the shadowed address range succeeds and leaves the rule in the list
    obtain ⟨w, hw⟩ := Surroundings.exists_store hg
    obtain ⟨c', hrun, hopen⟩ := Membership.removeOne_shadowed s ⟨hc, hw⟩ hp hxp
    refine hall [x] ?_ x List.mem_cons_self ?_
    · rw [hrun]
    · rwa [hrun]
  · obtain ⟨g, hg, p, hp, hxp⟩ := hleft cidrs x hx hok hopen
    exact hclear g hg p hp x hxp

/-- A ring whose group has two rules for one range of ports: the second one is behind the first, so
removals from the range of ports do not all remove. -/
theorem revokes_iff_unshadowed_of_two_rules :
    let s : MembershipSettings := ⟨"ring", none, ["a"], "acl", "dc"⟩
    let c : Cloud := { store := ⟨[], [⟨"acl", [.tcp (.singleton "10.0.0.1/32") 7000 7001,
      .tcp (.singleton "10.0.0.2/32") 7000 7001]⟩]⟩ }
    c.Steady ∧
      ¬ ∀ cidrs, ((Membership.removeIngress s cidrs 7000 7001).run c).1 = .ok () →
        ∀ x ∈ cidrs, ¬ ((Membership.removeIngress s cidrs 7000 7001).run c).2.store.Allows
          s.aclGroupName 7000 7001 x := by
  intro s c
  have hc : c.Steady := ⟨rfl, rfl, by simp [c]⟩
  refine ⟨hc, fun hall => ?_⟩
  have hclear := (revokes_iff_unshadowed s hc 7000 7001).2.1 hall _ rfl
  exact hclear (.tcp (.singleton "10.0.0.2/32") 7000 7001) (by decide) "10.0.0.2/32" (by decide)

/-- **A removal that succeeds and does not remove**: the group has two rules for one range of
ports, the second one has the address range, the first one does not. -/
theorem shadowed_range_stays_open :
    let s : MembershipSettings := ⟨"ring", none, ["a"], "acl", "dc"⟩
    let c : Cloud := { store := ⟨[], [⟨"acl", [.tcp (.singleton "10.0.0.1/32") 7000 7001,
      .tcp (.singleton "10.0.0.2/32") 7000 7001]⟩]⟩ }
    let after := (Membership.removeIngress s ["10.0.0.2/32"] 7000 7001).run c
    c.Steady ∧ after.1 = .ok () ∧ after.2.store.Allows s.aclGroupName 7000 7001 "10.0.0.2/32" := by
  refine ⟨⟨rfl, rfl, by simp⟩, ?_, ?_⟩
  · decide
  · decide

end NodeSidecar
