/-
**The permissions of a ring as a map of sets.**

Adding and removing address ranges go through requests that are refused as a whole, are then made
one by one, and merge, shrink, drop and create rules on their way.  None of this can be seen from
outside: as long as the provider does not fail, the calls act on a map that gives each range of
ports a set of address ranges, adding is the union, removing the difference, and listing reads the
map off.

Main definitions:

* `Membership.ChangeLaw` — a relation that every change of permissions obeys;
* `AclMap` — the address ranges for each range of ports, of TCP and of other protocols;
* `AclCall`, `AclCall.run`, `AclCall.apply` — a call, run against a provider and applied to a map;
* `runCalls`, `applyCalls` — calls one after another.

Main results:

* `Membership.ChangeLaw.changeEach_run`, `Membership.ChangeLaw.changePlan_run` — what holds of
  single requests holds of a change, one by one and as a whole;
* `Membership.changeLaw_changed` — a change joins or removes its address ranges;
* `AclMap.ofPermissions_changed` — a change of one slot, on the map;
* `AclCall.run_serves` — one call;
* `calls_refine_map` — **every sequence of calls acts as it does on the map**.
-/

import NodeSidecar.Proofs.Membership.Operations

set_option autoImplicit false

namespace NodeSidecar

/-! ### The requests of a change -/

namespace Membership

variable {name : String} {c : Cloud} {w : Surroundings name} {ps : List IngressRule}

/-- The slot of the TCP rules for a range of ports. -/
def tcpSlot (fromPort toPort : UInt16) : Slot := ⟨IngressRule.defaultProtocol, fromPort, toPort⟩

/-- The refusal of a change says that it is settled. -/
@[simp] theorem alreadySettled_refusal (change : IngressChange) (text : String) :
    alreadySettled change (change.refusal text) = true := by
  cases change <;> rfl

/-- A change of permissions is refused only because it is settled already. -/
theorem applyTo_error {change : IngressChange} {r : IngressRule} {ps : List IngressRule}
    {e : CloudError} (h : change.applyTo r ps = .error e) : ∃ text, e = change.refusal text := by
  rcases absent_or_split r.slot ps with hab | ⟨before, p, after, rfl, hbefore, hp⟩
  · cases change with
    | authorize =>
        rw [IngressChange.applyTo, authorizeIn_of_absent hab] at h
        cases h
    | revoke =>
        rw [IngressChange.applyTo, revokeIn_of_absent hab] at h
        exact ⟨_, (Except.error.inj h).symm⟩
  · cases change with
    | authorize =>
        rw [IngressChange.applyTo, authorizeIn_of_split hbefore hp] at h
        split at h
        · exact ⟨_, (Except.error.inj h).symm⟩
        · cases h
    | revoke =>
        rw [IngressChange.applyTo, revokeIn_of_split hbefore hp] at h
        split at h
        · cases h
        · exact ⟨_, (Except.error.inj h).symm⟩

/-- **A law of changes**: a relation between the permissions before and after a change of some
address ranges that holds of a request that is settled, of a request for one address range that is
refused, and of one change after another. -/
structure ChangeLaw (change : IngressChange) (fromPort toPort : UInt16)
    (Inv : List IngressRule → Prop)
    (R : CidrSet → List IngressRule → List IngressRule → Prop) : Prop where
  none : ∀ {ps}, Inv ps → R .empty ps ps
  settled : ∀ {cidrs ps ps'}, cidrs.isEmpty = false → Inv ps →
    change.applyTo (.tcp cidrs fromPort toPort) ps = .ok ps' → Inv ps' ∧ R cidrs ps ps'
  refused : ∀ {cidr ps e}, Inv ps →
    change.applyTo (.tcp (.singleton cidr) fromPort toPort) ps = .error e →
    R (.singleton cidr) ps ps
  trans : ∀ {cidrs cidrs' ps ps' ps''}, R cidrs ps ps' → R cidrs' ps' ps'' →
    R (cidrs.union cidrs') ps ps''

namespace ChangeLaw

variable {change : IngressChange} {fromPort toPort : UInt16} {Inv : List IngressRule → Prop}
  {R : CidrSet → List IngressRule → List IngressRule → Prop}

/-- The request for one address range obeys the law, whether it is refused or not. -/
theorem changeOne (law : ChangeLaw change fromPort toPort Inv R) (h : c.Serves w ps)
    (hps : Inv ps) (cidr : String) :
    ∃ result c' ps', c.changeIngress change name (.tcp (.singleton cidr) fromPort toPort) =
      (result, c') ∧ c'.Serves w ps' ∧ Inv ps' ∧ R (.singleton cidr) ps ps' ∧
      (result = .ok () ∨ ∃ e, result = .error e ∧ alreadySettled change e = true) := by
  cases ha : change.applyTo (.tcp (.singleton cidr) fromPort toPort) ps with
  | ok ps' =>
      obtain ⟨c', heq, hs⟩ := h.changeIngress_ok ha
      obtain ⟨hinv, hR⟩ := law.settled rfl hps ha
      exact ⟨_, c', ps', heq, hs, hinv, hR, Or.inl rfl⟩
  | error e =>
      obtain ⟨text, rfl⟩ := applyTo_error ha
      obtain ⟨c', heq, hs⟩ := h.changeIngress_error ha
      exact ⟨_, c', ps, heq, hs, hps, law.refused hps ha, Or.inr ⟨_, rfl, by simp⟩⟩

/-- **The requests for one address range after the other** obey the law for them all. -/
theorem changeEach_run (law : ChangeLaw change fromPort toPort Inv R) (h : c.Serves w ps)
    (hps : Inv ps) (cidrs : List String) :
    ∃ c' ps', (changeEach change name fromPort toPort cidrs).run c = (.ok (), c') ∧
      c'.Serves w ps' ∧ Inv ps' ∧ R (.ofList cidrs) ps ps' := by
  induction cidrs generalizing c ps with
  | nil => exact ⟨c, ps, rfl, h, hps, law.none hps⟩
  | cons cidr cidrs ih =>
      obtain ⟨result, c₁, ps₁, hone, hs₁, hps₁, hR₁, hresult⟩ := law.changeOne h hps cidr
      obtain ⟨c₂, ps₂, hrest, hs₂, hps₂, hR₂⟩ := ih hs₁ hps₁
      have hcons : CidrSet.ofList (cidr :: cidrs) =
          (CidrSet.singleton cidr).union (.ofList cidrs) := by
        refine CidrSet.ext fun x => ?_
        simp
      refine ⟨c₂, ps₂, ?_, hs₂, hps₂, hcons ▸ law.trans hR₁ hR₂⟩
      rw [changeEach, Plan.run, hone]
      rcases hresult with rfl | ⟨e, rfl, hsettled⟩
      · exact hrest
      · simpa only [hsettled, if_true] using hrest

/-- **The request as a whole**, and the ones after it, obey the law. -/
theorem changePlan_run (law : ChangeLaw change fromPort toPort Inv R) (h : c.Serves w ps)
    (hps : Inv ps) {cidrs : CidrSet} (hne : cidrs.isEmpty = false) :
    ∃ c' ps', (changePlan change name cidrs fromPort toPort).run c = (.ok (), c') ∧
      c'.Serves w ps' ∧ Inv ps' ∧ R cidrs ps ps' := by
  cases ha : change.applyTo (.tcp cidrs fromPort toPort) ps with
  | ok ps' =>
      obtain ⟨c', heq, hs⟩ := h.changeIngress_ok ha
      obtain ⟨hinv, hR⟩ := law.settled hne hps ha
      refine ⟨c', ps', ?_, hs, hinv, hR⟩
      rw [changePlan, Plan.run, heq]
      rfl
  | error e =>
      obtain ⟨text, rfl⟩ := applyTo_error ha
      obtain ⟨c', heq, hs⟩ := h.changeIngress_error ha
      rw [changePlan, Plan.run, heq]
      simp only [alreadySettled_refusal, if_true]
      by_cases hlen : 1 < cidrs.elements.length
      · have hall : CidrSet.ofList cidrs.elements = cidrs := CidrSet.ext fun x => by
          rw [CidrSet.mem_ofList, CidrSet.mem_iff]
        rw [if_pos hlen]
        have heach := law.changeEach_run hs hps cidrs.elements
        rwa [hall] at heach
      · -- the only address range is the one that was refused
        obtain ⟨cidr, rfl⟩ := CidrSet.exists_singleton hne (Nat.not_lt.1 hlen)
        rw [if_neg hlen]
        exact ⟨_, ps, rfl, hs.report _, hps, law.refused hps ha⟩

end ChangeLaw

/-- While slots are distinct, a change joins or removes its address ranges. -/
theorem changeLaw_changed (change : IngressChange) (fromPort toPort : UInt16) :
    ChangeLaw change fromPort toPort DistinctSlots
      (Changed change (tcpSlot fromPort toPort)) where
  none hd := .of_settled hd fun x hx => absurd hx (CidrSet.not_mem_empty x)
  settled {cidrs ps ps'} hne hd ha := by
    rcases change.applyTo_cases (r := .tcp cidrs fromPort toPort) hd hne with ⟨_, ps'', ha', hch⟩ | ⟨_, text, ha'⟩
    · obtain rfl : ps'' = _ := Except.ok.inj (ha'.symm.trans ha)
      exact ⟨hch.distinct, hch⟩
    · rw [ha'] at ha
      cases ha
  refused {cidr ps e} hd ha := by
    rcases change.applyTo_cases (r := .tcp (.singleton cidr) fromPort toPort) hd rfl with
      ⟨_, ps', ha', _⟩ | ⟨⟨x, hx, hset⟩, _⟩
    · rw [ha'] at ha
      cases ha
    · refine .of_settled hd fun y hy => ?_
      obtain rfl : x = cidr := CidrSet.mem_singleton.1 hx
      obtain rfl : y = x := CidrSet.mem_singleton.1 hy
      exact hset
  trans h h' := h.trans h'

/-- An operation whose plan succeeds succeeds, and its client changes nothing. -/
theorem run_leased {α : Type} {endpoint : String} {plan : Plan (Except MembershipError α)}
    {success : List LogLine} {a : α} {P : List IngressRule → Prop} (h : c.Serves w ps)
    (hplan : ∀ c : Cloud, c.Serves w ps →
      ∃ c' ps', plan.run c = (.ok a, c') ∧ c'.Serves w ps' ∧ P ps') :
    ∃ c' ps', (Operation.leased endpoint plan success).run c = (.ok a, c') ∧
      c'.Serves w ps' ∧ P ps' := by
  rcases Operation.leased_cases endpoint plan success c with
    ⟨-, -, -, -, hnot⟩ | ⟨c₁, c', hstore, hsteady, heq, huntouched⟩
  · exact absurd h.steady hnot
  · obtain ⟨c₂, ps', hrun, hs, hP⟩ := hplan c₁ ⟨hsteady h.steady, hstore.trans h.store⟩
    rw [hrun] at heq huntouched
    exact ⟨c', ps', heq, hs.congr huntouched, hP⟩

/-- **A change of permissions succeeds and obeys the law**, with an empty set of address ranges as
well. -/
theorem ChangeLaw.changeIngress_run {change : IngressChange} {fromPort toPort : UInt16}
    {Inv : List IngressRule → Prop} {R : CidrSet → List IngressRule → List IngressRule → Prop}
    (law : ChangeLaw change fromPort toPort Inv R) (s : MembershipSettings)
    {w : Surroundings s.aclGroupName} (h : c.Serves w ps) (hps : Inv ps) (cidrs : CidrSet) :
    ∃ c' ps', (changeIngress s change cidrs fromPort toPort).run c = (.ok (), c') ∧
      c'.Serves w ps' ∧ Inv ps' ∧ R cidrs ps ps' := by
  cases hne : cidrs.isEmpty with
  | true =>
      obtain rfl : cidrs = .empty := CidrSet.ext fun x =>
        iff_of_false (CidrSet.isEmpty_iff.1 hne x) (CidrSet.not_mem_empty x)
      rw [changeIngress, if_pos hne]
      exact ⟨c, ps, rfl, h, hps, law.none hps⟩
  | false =>
      rw [changeIngress, if_neg (by simp [hne])]
      exact run_leased h fun c hc => law.changePlan_run hc hps hne

/-- Without the group a change of some address ranges fails and changes nothing. -/
theorem changeIngress_without_group (s : MembershipSettings) (hc : c.Steady)
    (hg : c.store.securityGroup? s.aclGroupName = none) (change : IngressChange) {cidrs : CidrSet}
    (hne : cidrs.isEmpty = false) (fromPort toPort : UInt16) :
    ∃ c', (changeIngress s change cidrs fromPort toPort).run c =
        (.error (.cloud (.groupNotFound s.aclGroupName)), c') ∧ c'.Steady ∧
      c'.store = c.store := by
  obtain ⟨lease, c₁, hopen, hc₁, hstore₁⟩ := hc.open s.ec2Endpoint
  have hrequest : (change.request s.aclGroupName (.tcp cidrs fromPort toPort) c₁.store).map
      (fun s => ((), s)) = .error (.groupNotFound s.aclGroupName) := by
    rw [hstore₁]
    cases change with
    | authorize =>
        rw [IngressChange.request, Store.authorize, changePermissions_without_group _ hg]
        rfl
    | revoke =>
        rw [IngressChange.request, Store.revoke, changePermissions_without_group _ hg]
        rfl
  obtain ⟨c₂, heq, hc₂, hstore₂⟩ := hc₁.attempt_error
    (.changeIngress change s.aclGroupName (.tcp cidrs fromPort toPort))
    (fun store => (change.request s.aclGroupName (.tcp cidrs fromPort toPort) store).map
      fun s => ((), s)) hrequest
  rw [← Cloud.changeIngress_eq] at heq
  have hsettled : alreadySettled change (.groupNotFound s.aclGroupName) = false := by
    cases change <;> rfl
  have hend := c₂.untouched_finish lease false
  refine ⟨c₂.finish lease false, ?_, hc₂.congr hend, (hend.store.trans hstore₂).trans hstore₁⟩
  rw [changeIngress, if_neg (by simp [hne])]
  simp [Operation.run, hopen, changePlan, Plan.run, heq, hsettled, succeeded]

theorem mem_allowedRanges {groups : List SecurityGroup} {fromPort toPort : UInt16} {x : String} :
    x ∈ allowedRanges groups fromPort toPort ↔ ∃ g ∈ groups, ∃ p ∈ g.permissions,
      p.matchesRange fromPort toPort = true ∧ x ∈ p.cidrs := by
  rw [allowedRanges, CidrSet.mem_ofList, List.mem_flatMap]
  constructor
  · rintro ⟨p, hp, hx⟩
    obtain ⟨hp, hrange⟩ := List.mem_filter.1 hp
    obtain ⟨g, hg, hp⟩ := List.mem_flatMap.1 hp
    exact ⟨g, hg, p, hp, hrange, hx⟩
  · rintro ⟨g, hg, p, hp, hrange, hx⟩
    exact ⟨p, List.mem_filter.2 ⟨List.mem_flatMap.2 ⟨g, hg, hp⟩, hrange⟩, hx⟩

/-- A listing reads the permissions and leaves them alone. -/
theorem listIngress_run (s : MembershipSettings) {w : Surroundings s.aclGroupName}
    (h : c.Serves w ps) (fromPort toPort : UInt16) :
    ∃ c', (listIngress s fromPort toPort).run c =
      (.ok (allowedRanges [⟨s.aclGroupName, ps⟩] fromPort toPort), c') ∧ c'.Serves w ps := by
  have hrun : ∃ c' ps', (listIngress s fromPort toPort).run c =
      (.ok (allowedRanges [⟨s.aclGroupName, ps⟩] fromPort toPort), c') ∧
        c'.Serves w ps' ∧ ps' = ps := by
    refine run_leased h fun c hc => ?_
    obtain ⟨c', heq, hs⟩ := hc.describeSecurityGroups
    refine ⟨c', ps, ?_, hs, rfl⟩
    rw [Plan.run, heq]
    rfl
  obtain ⟨c', ps', hrun, hs, rfl⟩ := hrun
  exact ⟨c', hrun, hs⟩

end Membership

/-! ### The map of a list of permissions -/

/-- **The address ranges for each range of ports**, of TCP and of the other protocols. -/
structure AclMap where
  tcp : UInt16 → UInt16 → CidrSet
  other : UInt16 → UInt16 → CidrSet

/-- The address ranges of other protocols than TCP for a range of ports. -/
def otherRanges (fromPort toPort : UInt16) (ps : List IngressRule) : CidrSet :=
  .ofList ((ps.filter fun p => p.protocol != IngressRule.defaultProtocol &&
    p.matchesRange fromPort toPort).flatMap fun p => p.cidrs.elements)

theorem mem_otherRanges {fromPort toPort : UInt16} {ps : List IngressRule} {x : String} :
    x ∈ otherRanges fromPort toPort ps ↔
      ∃ protocol, protocol ≠ IngressRule.defaultProtocol ∧
        x ∈ rangesOf ⟨protocol, fromPort, toPort⟩ ps := by
  rw [otherRanges, CidrSet.mem_ofList, List.mem_flatMap]
  constructor
  · rintro ⟨p, hp, hx⟩
    obtain ⟨hmem, hrange⟩ := List.mem_filter.1 hp
    simp only [IngressRule.matchesRange, Bool.and_eq_true, bne_iff_ne, beq_iff_eq] at hrange
    refine ⟨p.protocol, hrange.1, mem_rangesOf.2 ⟨p, hmem, ?_, hx⟩⟩
    rw [IngressRule.slot, hrange.2.1, hrange.2.2]
  · rintro ⟨protocol, hprotocol, hx⟩
    obtain ⟨p, hp, hslot, hxp⟩ := mem_rangesOf.1 hx
    obtain ⟨rfl, rfl, rfl⟩ := Slot.mk.inj hslot
    refine ⟨p, List.mem_filter.2 ⟨hp, ?_⟩, hxp⟩
    simp [IngressRule.matchesRange, hprotocol]

namespace AclMap

/-- The map of a list of permissions. -/
def ofPermissions (ps : List IngressRule) : AclMap :=
  ⟨fun fromPort toPort => rangesOf (Membership.tcpSlot fromPort toPort) ps,
    fun fromPort toPort => otherRanges fromPort toPort ps⟩

/-- The map with another set for one range of ports. -/
def setTcp (m : AclMap) (fromPort toPort : UInt16) (cidrs : CidrSet) : AclMap :=
  { m with tcp := fun f t => if f = fromPort ∧ t = toPort then cidrs else m.tcp f t }

/-- **A change of one slot, on the map**: it changes one set and leaves all others alone. -/
theorem ofPermissions_changed {change : IngressChange} {fromPort toPort : UInt16}
    {cidrs : CidrSet} {ps ps' : List IngressRule}
    (h : Changed change (Membership.tcpSlot fromPort toPort) cidrs ps ps') :
    ofPermissions ps' = (ofPermissions ps).setTcp fromPort toPort
      (change.on ((ofPermissions ps).tcp fromPort toPort) cidrs) := by
  have htcp : ∀ f t, rangesOf (Membership.tcpSlot f t) ps' =
      if f = fromPort ∧ t = toPort then
        change.on (rangesOf (Membership.tcpSlot fromPort toPort) ps) cidrs
      else rangesOf (Membership.tcpSlot f t) ps := by
    intro f t
    by_cases hft : f = fromPort ∧ t = toPort
    · obtain ⟨rfl, rfl⟩ := hft
      rw [if_pos ⟨rfl, rfl⟩]
      exact h.ranges
    · rw [if_neg hft]
      refine h.others _ fun heq => hft ?_
      exact ⟨congrArg Slot.fromPort heq, congrArg Slot.toPort heq⟩
  have hother : ∀ f t, otherRanges f t ps' = otherRanges f t ps := by
    intro f t
    refine CidrSet.ext fun x => ?_
    rw [mem_otherRanges, mem_otherRanges]
    refine exists_congr fun protocol => and_congr_right fun hne => ?_
    rw [h.others _ fun heq => hne (congrArg Slot.protocol heq)]
  rw [ofPermissions, setTcp, ofPermissions]
  congr 1
  · funext f t
    exact htcp f t
  · funext f t
    exact hother f t

/-- A listing is the union of both sets. -/
theorem allowedRanges_eq (name : String) (ps : List IngressRule) (fromPort toPort : UInt16) :
    Membership.allowedRanges [⟨name, ps⟩] fromPort toPort =
      ((ofPermissions ps).tcp fromPort toPort).union
        ((ofPermissions ps).other fromPort toPort) := by
  refine CidrSet.ext fun x => ?_
  rw [Membership.mem_allowedRanges, CidrSet.mem_union]
  simp only [ofPermissions, mem_otherRanges, mem_rangesOf, List.mem_singleton, exists_eq_left,
    IngressRule.matchesRange, Bool.and_eq_true, beq_iff_eq]
  constructor
  · rintro ⟨p, hp, ⟨rfl, rfl⟩, hx⟩
    by_cases hprotocol : p.protocol = IngressRule.defaultProtocol
    · refine Or.inl ⟨p, hp, ?_, hx⟩
      rw [IngressRule.slot, Membership.tcpSlot, hprotocol]
    · exact Or.inr ⟨p.protocol, hprotocol, p, hp, rfl, hx⟩
  · rintro (⟨p, hp, hslot, hx⟩ | ⟨_, _, p, hp, hslot, hx⟩)
    · obtain ⟨_, hf, ht⟩ := Slot.mk.inj hslot
      exact ⟨p, hp, ⟨hf, ht⟩, hx⟩
    · obtain ⟨_, hf, ht⟩ := Slot.mk.inj hslot
      exact ⟨p, hp, ⟨hf, ht⟩, hx⟩

end AclMap

/-! ### Calls -/

/-- A call about the permissions of a ring. -/
inductive AclCall where
  | add (cidrs : List String) (fromPort toPort : UInt16)
  | remove (cidrs : List String) (fromPort toPort : UInt16)
  | list (fromPort toPort : UInt16)

namespace AclCall

/-- A call run against a provider; only a listing answers with a set. -/
def run (s : MembershipSettings) (c : Cloud) :
    AclCall → Except MembershipError (Option CidrSet) × Cloud
  | add cidrs fromPort toPort =>
    let (result, c) := (Membership.addIngress s cidrs fromPort toPort).run c
    (result.map fun _ => none, c)
  | remove cidrs fromPort toPort =>
    let (result, c) := (Membership.removeIngress s cidrs fromPort toPort).run c
    (result.map fun _ => none, c)
  | list fromPort toPort =>
    let (result, c) := (Membership.listIngress s fromPort toPort).run c
    (result.map some, c)

/-- A call applied to a map: adding is the union, removing the difference, and listing answers with
all address ranges of the range of ports. -/
def apply (m : AclMap) : AclCall → Option CidrSet × AclMap
  | add cidrs fromPort toPort =>
    (none, m.setTcp fromPort toPort ((m.tcp fromPort toPort).union (.ofList cidrs)))
  | remove cidrs fromPort toPort =>
    (none, m.setTcp fromPort toPort ((m.tcp fromPort toPort).diff (.ofList cidrs)))
  | list fromPort toPort => (some ((m.tcp fromPort toPort).union (m.other fromPort toPort)), m)

/-- **One call** succeeds, acts as it does on the map, and keeps the slots distinct. -/
theorem run_serves (s : MembershipSettings) {c : Cloud} {w : Surroundings s.aclGroupName}
    {ps : List IngressRule} (h : c.Serves w ps) (hd : DistinctSlots ps) (call : AclCall) :
    ∃ c' ps', call.run s c = (.ok (call.apply (.ofPermissions ps)).1, c') ∧ c'.Serves w ps' ∧
      DistinctSlots ps' ∧ AclMap.ofPermissions ps' = (call.apply (.ofPermissions ps)).2 := by
  cases call with
  | add cidrs fromPort toPort =>
      obtain ⟨c', ps', hrun, hs, hd', hch⟩ :=
        (Membership.changeLaw_changed .authorize fromPort toPort).changeIngress_run s h hd
          (.ofList cidrs)
      refine ⟨c', ps', ?_, hs, hd', AclMap.ofPermissions_changed hch⟩
      rw [run, Membership.addIngress, hrun]
      rfl
  | remove cidrs fromPort toPort =>
      obtain ⟨c', ps', hrun, hs, hd', hch⟩ :=
        (Membership.changeLaw_changed .revoke fromPort toPort).changeIngress_run s h hd
          (.ofList cidrs)
      refine ⟨c', ps', ?_, hs, hd', AclMap.ofPermissions_changed hch⟩
      rw [run, Membership.removeIngress, hrun]
      rfl
  | list fromPort toPort =>
      obtain ⟨c', hrun, hs⟩ := Membership.listIngress_run s h fromPort toPort
      refine ⟨c', ps, ?_, hs, hd, rfl⟩
      rw [run, hrun, AclMap.allowedRanges_eq]
      rfl

end AclCall

/-- Calls run one after another, with their results. -/
def runCalls (s : MembershipSettings) (c : Cloud) :
    List AclCall → List (Except MembershipError (Option CidrSet)) × Cloud
  | [] => ([], c)
  | call :: calls =>
    let (result, c) := call.run s c
    let (results, c) := runCalls s c calls
    (result :: results, c)

/-- Calls applied to a map one after another, with their answers. -/
def applyCalls (m : AclMap) : List AclCall → List (Option CidrSet) × AclMap
  | [] => ([], m)
  | call :: calls =>
    let (answer, m) := call.apply m
    let (answers, m) := applyCalls m calls
    (answer :: answers, m)

theorem runCalls_serves (s : MembershipSettings) {c : Cloud} {w : Surroundings s.aclGroupName}
    {ps : List IngressRule} (h : c.Serves w ps) (hd : DistinctSlots ps) (calls : List AclCall) :
    ∃ c' ps', runCalls s c calls =
        ((applyCalls (.ofPermissions ps) calls).1.map Except.ok, c') ∧ c'.Serves w ps' ∧
      DistinctSlots ps' ∧ AclMap.ofPermissions ps' = (applyCalls (.ofPermissions ps) calls).2 := by
  induction calls generalizing c ps with
  | nil => exact ⟨c, ps, rfl, h, hd, rfl⟩
  | cons call calls ih =>
      obtain ⟨c₁, ps₁, hcall, hs₁, hd₁, hmap₁⟩ := call.run_serves s h hd
      obtain ⟨c₂, ps₂, hcalls, hs₂, hd₂, hmap₂⟩ := ih hs₁ hd₁
      rw [hmap₁] at hcalls hmap₂
      refine ⟨c₂, ps₂, ?_, hs₂, hd₂, hmap₂⟩
      rw [runCalls, hcall]
      simp only [hcalls]
      rfl

/-- **Every sequence of calls acts as it does on the map.**  Let no failure be asked for, let the
security group of the ring be there, and let its rules have distinct slots.  Then all calls succeed
with the answers that the map gives, the permissions in the end are those of the map, with distinct
slots, and everything around them in the store is as it was. -/
theorem calls_refine_map (s : MembershipSettings) {c : Cloud} (hc : c.Steady) {g : SecurityGroup}
    (hg : c.store.securityGroup? s.aclGroupName = some g) (hd : DistinctSlots g.permissions)
    (calls : List AclCall) :
    ∃ (w : Surroundings s.aclGroupName) (ps : List IngressRule),
      c.store = w.store g.permissions ∧ (runCalls s c calls).2.store = w.store ps ∧
      (runCalls s c calls).1 = (applyCalls (.ofPermissions g.permissions) calls).1.map Except.ok ∧
      AclMap.ofPermissions ps = (applyCalls (.ofPermissions g.permissions) calls).2 ∧
      DistinctSlots ps := by
  obtain ⟨w, hw⟩ := Surroundings.exists_store hg
  obtain ⟨c', ps, hrun, hs, hps, hmap⟩ := runCalls_serves s ⟨hc, hw⟩ hd calls
  rw [hrun]
  exact ⟨w, ps, hw, hs.store, rfl, hmap, hps⟩

/-- A ring whose group has a rule of either kind, calls that are partly settled already, and a
release that fails each time. -/
theorem calls_refine_map_of_partly_settled :
    let s : MembershipSettings := ⟨"ring", none, ["a"], "acl", "dc"⟩
    let g : SecurityGroup := ⟨"acl",
      [.tcp (.singleton "10.0.0.0/8") 7000 7001, ⟨"udp", 7000, 7001, .singleton "::/0"⟩]⟩
    let c : Cloud := { store := ⟨[], [⟨"other", []⟩, g]⟩, faults := { releases := true } }
    let calls : List AclCall := [.add ["10.1.0.0/16", "10.0.0.0/8", "10.1.0.0/16"] 7000 7001,
      .remove ["10.0.0.0/8", "::/0"] 7000 7001, .add [] 7000 7002, .list 7000 7001]
    c.Steady ∧ c.store.securityGroup? s.aclGroupName = some g ∧ DistinctSlots g.permissions ∧
      ∃ (w : Surroundings s.aclGroupName) (ps : List IngressRule),
        (runCalls s c calls).2.store = w.store ps ∧
        (runCalls s c calls).1 =
          (applyCalls (.ofPermissions g.permissions) calls).1.map Except.ok := by
  intro s g c calls
  have hc : c.Steady := ⟨rfl, rfl, by simp [c]⟩
  have hg : c.store.securityGroup? s.aclGroupName = some g := by decide
  have hd : DistinctSlots g.permissions := by decide
  obtain ⟨w, ps, -, hstore, hresults, -, -⟩ := calls_refine_map s hc hg hd calls
  exact ⟨hc, hg, hd, w, ps, hstore, hresults⟩

end NodeSidecar
