/-
**Changes as a whole and in parts.**

A change of permissions is asked for as a whole, and for each of its address ranges only when the
provider refuses that.  Which of the two happens cannot be seen afterwards: a request for several
address ranges that is settled leaves the very list of permissions that the requests for each of
them leave, whatever rules there are.  So a change may be made one address range after the other.
When the rules have distinct slots it may be made in any parts, in any order, and parts of it may be
made again.

Main definitions:

* `IngressChange.after` — a list of permissions after a request that may be refused;
* `AclChange.part` — the same change of other address ranges;
* `runUntilFailure` — changes one after another, up to the first one that fails;
* `Store.rangesIn` — the address ranges of a slot in the first security group of a name.

Main results:

* `IngressChange.applyTo_split` — **a request that is settled can be split** into one for an address
  range and one for the others;
* `Membership.changeIngress_serves` — a change leaves what the requests for its address ranges
  leave;
* `runUntilFailure_changed` — changes in parts change their slot by all that they ask for;
* `batch_is_one_by_one` — **a change as a whole is the change in parts**.
-/

import NodeSidecar.Proofs.Membership.Calls
import NodeSidecar.Proofs.Membership.Concurrency

set_option autoImplicit false

namespace NodeSidecar

/-! ### Requests that are split -/

section Split

variable {cidr : String} {cidrs all : CidrSet} {fromPort toPort : UInt16}
  {ps ps' : List IngressRule}

/-- An addition that is settled can be split. -/
theorem authorizeIn_split (hnot : cidr ∉ cidrs) (hall : ∀ x, x ∈ all ↔ x = cidr ∨ x ∈ cidrs)
    (h : authorizeIn (.tcp all fromPort toPort) ps = .ok ps') :
    ∃ ps₁, authorizeIn (.tcp (.singleton cidr) fromPort toPort) ps = .ok ps₁ ∧
      authorizeIn (.tcp cidrs fromPort toPort) ps₁ = .ok ps' := by
  have hfree : ∀ {s : CidrSet}, (∀ x ∈ cidrs, x ∉ s) →
      cidrs.firstIn? (s.union (.singleton cidr)) = none := fun hs => by
    refine CidrSet.firstIn?_eq_none.2 fun x hx hmem => ?_
    rcases CidrSet.mem_union.1 hmem with hmem | hmem
    · exact hs x hx hmem
    · exact hnot (CidrSet.mem_singleton.1 hmem ▸ hx)
  have hunion : ∀ s : CidrSet, (s.union (.singleton cidr)).union cidrs = s.union all := fun s =>
    CidrSet.ext fun x => by simp only [CidrSet.mem_union, CidrSet.mem_singleton, hall, or_assoc]
  rcases absent_or_split (Membership.tcpSlot fromPort toPort) ps with
    hab | ⟨before, p, after, rfl, hbefore, hp⟩
  · -- the rule that the first request puts at the end is the one that the second one joins
    rw [authorizeIn_of_absent hab] at h
    obtain rfl := Except.ok.inj h
    refine ⟨_, authorizeIn_of_absent hab, ?_⟩
    have hsingle : CidrSet.empty.union (.singleton cidr) = .singleton cidr :=
      CidrSet.ext fun x => by simp [CidrSet.not_mem_empty]
    have hwhole : CidrSet.empty.union all = all :=
      CidrSet.ext fun x => by simp [CidrSet.not_mem_empty]
    have hnone : cidrs.firstIn? (.singleton cidr) = none :=
      hsingle ▸ hfree fun x _ => CidrSet.not_mem_empty x
    have hboth : (CidrSet.singleton cidr).union cidrs = all :=
      hsingle ▸ (hunion .empty).trans hwhole
    have hslot : (IngressRule.tcp cidrs fromPort toPort).slot ∉ ps.map IngressRule.slot := hab
    rw [authorizeIn_of_split (p := .tcp (.singleton cidr) fromPort toPort) hslot rfl]
    simp only [IngressRule.tcp, hnone, hboth]
  · rw [authorizeIn_of_split hbefore hp] at h
    split at h
    · cases h
    · next hnone =>
      obtain rfl := Except.ok.inj h
      have hout : ∀ x ∈ all, x ∉ p.cidrs := CidrSet.firstIn?_eq_none.1 hnone
      have hone : (CidrSet.singleton cidr).firstIn? p.cidrs = none :=
        CidrSet.firstIn?_eq_none.2 fun x hx =>
          hout x ((hall x).2 (Or.inl (CidrSet.mem_singleton.1 hx)))
      have hrest := hfree fun x hx => hout x ((hall x).2 (Or.inr hx))
      refine ⟨before ++ { p with cidrs := p.cidrs.union (.singleton cidr) } :: after, ?_, ?_⟩
      · rw [authorizeIn_of_split hbefore hp]
        simp only [IngressRule.tcp, hone]
      · rw [authorizeIn_of_split hbefore hp]
        simp only [IngressRule.tcp, hrest, hunion]

/-- A removal that is settled can be split; the rule of the slot does not go before the last of its
address ranges. -/
theorem revokeIn_split (hne : cidrs.isEmpty = false) (hnot : cidr ∉ cidrs)
    (hall : ∀ x, x ∈ all ↔ x = cidr ∨ x ∈ cidrs)
    (h : revokeIn (.tcp all fromPort toPort) ps = .ok ps') :
    ∃ ps₁, revokeIn (.tcp (.singleton cidr) fromPort toPort) ps = .ok ps₁ ∧
      revokeIn (.tcp cidrs fromPort toPort) ps₁ = .ok ps' := by
  rcases absent_or_split (Membership.tcpSlot fromPort toPort) ps with
    hab | ⟨before, p, after, rfl, hbefore, hp⟩
  · rw [revokeIn_of_absent hab] at h
    cases h
  · rw [revokeIn_of_split hbefore hp] at h
    split at h
    · next hsubset =>
      obtain rfl := Except.ok.inj h
      have hsub : ∀ x ∈ all, x ∈ p.cidrs := CidrSet.subset_iff.1 hsubset
      have hone : (CidrSet.singleton cidr).subset p.cidrs = true :=
        CidrSet.subset_iff.2 fun x hx => hsub x ((hall x).2 (Or.inl (CidrSet.mem_singleton.1 hx)))
      have hleft : ∀ x ∈ cidrs, x ∈ p.cidrs.diff (.singleton cidr) := fun x hx =>
        CidrSet.mem_diff.2 ⟨hsub x ((hall x).2 (Or.inr hx)),
          fun heq => hnot (CidrSet.mem_singleton.1 heq ▸ hx)⟩
      have hstays : (p.cidrs.diff (.singleton cidr)).isEmpty = false := by
        obtain ⟨x, hx⟩ := CidrSet.exists_mem_of_not_isEmpty hne
        exact Bool.eq_false_iff.2 fun hempty => CidrSet.isEmpty_iff.1 hempty x (hleft x hx)
      have hdiff : (p.cidrs.diff (.singleton cidr)).diff cidrs = p.cidrs.diff all :=
        CidrSet.ext fun x => by
          simp only [CidrSet.mem_diff, CidrSet.mem_singleton, hall, not_or, and_assoc]
      refine ⟨before ++ { p with cidrs := p.cidrs.diff (.singleton cidr) } :: after, ?_, ?_⟩
      · rw [revokeIn_of_split hbefore hp]
        simp only [IngressRule.tcp, hone, hstays, if_true, Bool.false_eq_true, if_false]
      · rw [revokeIn_of_split hbefore hp]
        simp only [IngressRule.tcp, CidrSet.subset_iff.2 hleft, hdiff, if_true]
        rfl
    · cases h

end Split

/-! ### Requests for one address range after the other -/

namespace IngressChange

/-- The permissions after a request: changed if it is settled, and the same if it is refused. -/
def after (change : IngressChange) (r : IngressRule) (ps : List IngressRule) : List IngressRule :=
  match change.applyTo r ps with
  | .ok ps' => ps'
  | .error _ => ps

/-- The permissions after the requests for one address range after the other. -/
def afterEach (change : IngressChange) (fromPort toPort : UInt16) (cidrs : List String)
    (ps : List IngressRule) : List IngressRule :=
  cidrs.foldl (fun ps cidr => change.after (.tcp (.singleton cidr) fromPort toPort) ps) ps

variable {change : IngressChange} {fromPort toPort : UInt16} {ps ps' : List IngressRule}

theorem after_of_ok {r : IngressRule} (h : change.applyTo r ps = .ok ps') :
    change.after r ps = ps' := by
  rw [after, h]

theorem after_of_error {r : IngressRule} {e : CloudError} (h : change.applyTo r ps = .error e) :
    change.after r ps = ps := by
  rw [after, h]

/-- **A request that is settled can be split** into one for an address range of it and one for the
others, both of which are settled. -/
theorem applyTo_split {cidr : String} {cidrs all : CidrSet} (hne : cidrs.isEmpty = false)
    (hnot : cidr ∉ cidrs) (hall : ∀ x, x ∈ all ↔ x = cidr ∨ x ∈ cidrs)
    (h : change.applyTo (.tcp all fromPort toPort) ps = .ok ps') :
    ∃ ps₁, change.applyTo (.tcp (.singleton cidr) fromPort toPort) ps = .ok ps₁ ∧
      change.applyTo (.tcp cidrs fromPort toPort) ps₁ = .ok ps' := by
  cases change with
  | authorize => exact authorizeIn_split hnot hall h
  | revoke => exact revokeIn_split hne hnot hall h

/-- **A request that is settled** leaves what the requests for each of its address ranges leave. -/
theorem afterEach_of_ok {all : CidrSet} {cidrs : List String} (hall : all.elements = cidrs)
    (hne : cidrs ≠ []) (h : change.applyTo (.tcp all fromPort toPort) ps = .ok ps') :
    change.afterEach fromPort toPort cidrs ps = ps' := by
  induction cidrs generalizing all ps with
  | nil => exact absurd rfl hne
  | cons cidr cidrs ih =>
      have hasc := all.ascending
      rw [hall] at hasc
      obtain ⟨hlt, hasc⟩ := List.pairwise_cons.1 hasc
      by_cases hrest : cidrs = []
      · subst hrest
        obtain rfl : all = .singleton cidr := CidrSet.eq_of_elements_eq hall
        exact after_of_ok h
      · have hempty : (CidrSet.mk cidrs hasc).isEmpty = false := by
          simpa [CidrSet.isEmpty] using hrest
        have hnot : cidr ∉ CidrSet.mk cidrs hasc := fun hmem =>
          String.lt_irrefl cidr (hlt cidr hmem)
        obtain ⟨ps₁, hone, hothers⟩ := applyTo_split hempty hnot
          (fun x => by rw [CidrSet.mem_iff, hall, List.mem_cons]; rfl) h
        -- the others are settled as one request from where the first one leaves the permissions
        rw [afterEach, List.foldl_cons, after_of_ok hone]
        exact ih rfl hrest hothers

end IngressChange

/-! ### What a change leaves -/

namespace Membership

variable {name : String} {c : Cloud} {ps : List IngressRule}

/-- The requests for one address range after the other. -/
theorem changeEach_serves {w : Surroundings name} (h : c.Serves w ps) (change : IngressChange)
    (fromPort toPort : UInt16) (cidrs : List String) :
    ∃ c', (changeEach change name fromPort toPort cidrs).run c = (.ok (), c') ∧
      c'.Serves w (change.afterEach fromPort toPort cidrs ps) := by
  induction cidrs generalizing c ps with
  | nil => exact ⟨c, rfl, h⟩
  | cons cidr cidrs ih =>
      rw [changeEach, Plan.run, IngressChange.afterEach, List.foldl_cons]
      cases ha : change.applyTo (.tcp (.singleton cidr) fromPort toPort) ps with
      | ok ps' =>
          obtain ⟨c', heq, hs⟩ := h.changeIngress_ok ha
          rw [heq, IngressChange.after_of_ok ha]
          exact ih hs
      | error e =>
          obtain ⟨text, rfl⟩ := applyTo_error ha
          obtain ⟨c', heq, hs⟩ := h.changeIngress_error ha
          rw [heq, IngressChange.after_of_error ha]
          simp only [alreadySettled_refusal, if_true]
          exact ih hs

/-- **A change leaves what the requests for its address ranges leave**, one after the other, whether
the request as a whole is settled or refused. -/
theorem changeIngress_serves (s : MembershipSettings) {w : Surroundings s.aclGroupName}
    (h : c.Serves w ps) (change : IngressChange) (cidrs : CidrSet) (fromPort toPort : UInt16) :
    ∃ c', (changeIngress s change cidrs fromPort toPort).run c = (.ok (), c') ∧
      c'.Serves w (change.afterEach fromPort toPort cidrs.elements ps) := by
  cases hne : cidrs.isEmpty with
  | true =>
      rw [changeIngress, if_pos hne, List.isEmpty_iff.1 hne]
      exact ⟨c, rfl, h⟩
  | false =>
      have hleased : ∀ c : Cloud, c.Serves w ps → ∃ c' ps',
          (changePlan change s.aclGroupName cidrs fromPort toPort).run c = (.ok (), c') ∧
            c'.Serves w ps' ∧ ps' = change.afterEach fromPort toPort cidrs.elements ps := by
        intro c hc
        rw [changePlan, Plan.run]
        cases ha : change.applyTo (.tcp cidrs fromPort toPort) ps with
        | ok ps' =>
            obtain ⟨c', heq, hs⟩ := hc.changeIngress_ok ha
            have hcidrs : cidrs.elements ≠ [] := fun hnil => by
              rw [CidrSet.isEmpty, hnil] at hne
              cases hne
            rw [heq]
            exact ⟨c', ps', rfl, hs, (IngressChange.afterEach_of_ok rfl hcidrs ha).symm⟩
        | error e =>
            obtain ⟨text, rfl⟩ := applyTo_error ha
            obtain ⟨c', heq, hs⟩ := hc.changeIngress_error ha
            rw [heq]
            simp only [alreadySettled_refusal, if_true]
            by_cases hlen : 1 < cidrs.elements.length
            · rw [if_pos hlen]
              obtain ⟨c'', hrun, hs'⟩ :=
                changeEach_serves hs change fromPort toPort cidrs.elements
              exact ⟨c'', _, hrun, hs', rfl⟩
            · -- the request for the only address range is the one that was refused
              rw [if_neg hlen]
              obtain ⟨cidr, rfl⟩ := CidrSet.exists_singleton hne (Nat.not_lt.1 hlen)
              exact ⟨_, ps, rfl, hs.report _, (IngressChange.after_of_error ha).symm⟩
      have hchange : changeIngress s change cidrs fromPort toPort = .leased s.ec2Endpoint
          (changePlan change s.aclGroupName cidrs fromPort toPort) [.info "Updated ACL"] :=
        if_neg (by simp [hne])
      obtain ⟨c', ps', hrun, hs, rfl⟩ := run_leased h hleased
      exact ⟨c', hchange ▸ hrun, hs⟩

end Membership

/-! ### Changes in parts -/

/-- The same change of other address ranges. -/
def AclChange.part (a : AclChange) (cidrs : List String) : AclChange := { a with cidrs }

theorem AclChange.operation_part (s : MembershipSettings) (a : AclChange) (cidrs : List String) :
    (a.part cidrs).operation s =
      Membership.changeIngress s a.change (.ofList cidrs) a.fromPort a.toPort :=
  (a.part cidrs).operation_eq s

/-- **Changes one after another**, up to the first one that fails. -/
def runUntilFailure (s : MembershipSettings) :
    List AclChange → Cloud → Except MembershipError Unit × Cloud
  | [], c => (.ok (), c)
  | a :: calls, c =>
    match (a.operation s).run c with
    | (.ok (), c) => runUntilFailure s calls c
    | (.error e, c) => (.error e, c)

/-- The address ranges of a slot in the first security group of a name. -/
def Store.rangesIn (s : Store) (group : String) (slot : Slot) : Option CidrSet :=
  (s.securityGroup? group).map fun g => rangesOf slot g.permissions

theorem Surroundings.rangesIn_store {name : String} (w : Surroundings name)
    (ps : List IngressRule) (slot : Slot) :
    (w.store ps).rangesIn name slot = some (rangesOf slot ps) := by
  rw [Store.rangesIn, w.securityGroup?_store, Option.map_some]

section Parts

variable {s : MembershipSettings} {c c' : Cloud} {w : Surroundings s.aclGroupName}
  {ps : List IngressRule}

theorem runUntilFailure_of_ok {a : AclChange} (h : (a.operation s).run c = (.ok (), c'))
    (calls : List AclChange) : runUntilFailure s (a :: calls) c = runUntilFailure s calls c' := by
  rw [runUntilFailure, h]

theorem runUntilFailure_of_error {a : AclChange} {e : MembershipError}
    (h : (a.operation s).run c = (.error e, c')) (calls : List AclChange) :
    runUntilFailure s (a :: calls) c = (.error e, c') := by
  rw [runUntilFailure, h]

theorem runUntilFailure_one (s : MembershipSettings) (a : AclChange) (c : Cloud) :
    runUntilFailure s [a] c = (a.operation s).run c := by
  rcases h : (a.operation s).run c with ⟨e | _, c'⟩
  · exact runUntilFailure_of_error h []
  · exact runUntilFailure_of_ok h []

/-- The changes of one address range after the other leave what the requests for them leave. -/
theorem runUntilFailure_each (h : c.Serves w ps) (a : AclChange) (cidrs : List String) :
    ∃ c', runUntilFailure s (cidrs.map fun x => a.part [x]) c = (.ok (), c') ∧
      c'.Serves w (a.change.afterEach a.fromPort a.toPort cidrs ps) := by
  induction cidrs generalizing c ps with
  | nil => exact ⟨c, rfl, h⟩
  | cons x cidrs ih =>
      obtain ⟨c', hrun, hs⟩ :=
        Membership.changeIngress_serves s h a.change (.ofList [x]) a.fromPort a.toPort
      rw [← a.operation_part] at hrun
      rw [List.map_cons, runUntilFailure_of_ok hrun]
      exact ih hs

/-- **Changes in parts** succeed while slots are distinct, and change their slot by all that they
ask for. -/
theorem runUntilFailure_changed (h : c.Serves w ps) (hd : DistinctSlots ps) (a : AclChange)
    (batches : List (List String)) :
    ∃ c' ps', runUntilFailure s (batches.map a.part) c = (.ok (), c') ∧ c'.Serves w ps' ∧
      Changed a.change a.slot (.ofList batches.flatten) ps ps' := by
  have hlaw := Membership.changeLaw_changed a.change a.fromPort a.toPort
  induction batches generalizing c ps with
  | nil => exact ⟨c, ps, rfl, h, hlaw.none hd⟩
  | cons cidrs batches ih =>
      obtain ⟨c₁, ps₁, hrun, hs₁, hd₁, hch₁⟩ := hlaw.changeIngress_run s h hd (.ofList cidrs)
      obtain ⟨c₂, ps₂, hrest, hs₂, hch₂⟩ := ih hs₁ hd₁
      have hunion : CidrSet.ofList (cidrs :: batches).flatten =
          (CidrSet.ofList cidrs).union (.ofList batches.flatten) :=
        CidrSet.ext fun x => by simp
      rw [← a.operation_part] at hrun
      refine ⟨c₂, ps₂, ?_, hs₂, hunion ▸ hch₁.trans hch₂⟩
      rw [List.map_cons, runUntilFailure_of_ok hrun, hrest]

/-- Without the group changes in parts fail unless they ask for nothing, and nothing changes. -/
theorem runUntilFailure_without_group (hc : c.Steady)
    (hg : c.store.securityGroup? s.aclGroupName = none) (a : AclChange)
    (batches : List (List String)) :
    ∃ c', runUntilFailure s (batches.map a.part) c =
        (if batches.flatten = [] then .ok ()
          else .error (.cloud (.groupNotFound s.aclGroupName)), c') ∧ c'.store = c.store := by
  induction batches generalizing c with
  | nil => exact ⟨c, rfl, rfl⟩
  | cons cidrs batches ih =>
      rw [List.map_cons]
      by_cases hnil : cidrs = []
      · have hrun : ((a.part cidrs).operation s).run c = (.ok (), c) := by
          rw [a.operation_part, hnil]
          rfl
        rw [runUntilFailure_of_ok hrun, List.flatten_cons, hnil, List.nil_append]
        exact ih hc hg
      · have hne : (CidrSet.ofList cidrs).isEmpty = false :=
          Bool.eq_false_iff.2 (mt (RingCall.isEmpty_ofList cidrs).1 hnil)
        obtain ⟨c', hrun, _, hstore⟩ :=
          Membership.changeIngress_without_group s hc hg a.change hne a.fromPort a.toPort
        rw [← a.operation_part] at hrun
        refine ⟨c', ?_, hstore⟩
        rw [runUntilFailure_of_error hrun, if_neg (by simp [hnil])]

end Parts

/-- **A change as a whole is the change in parts.**  Let no failure be asked for.  Then for every
store, whatever rules the group of the ring has and also without that group, and for every change:

* the changes of its address ranges one after the other, in ascending order and up to the first that
  fails, have the result of the change as a whole and leave the very same store;
* if the rules of the group have distinct slots, then so do changes in any parts which make up the
  whole, in any order and with repetitions, as far as the sets of all slots are concerned. -/
theorem batch_is_one_by_one (s : MembershipSettings) {c : Cloud} (hc : c.Steady) (a : AclChange) :
    let whole := (a.operation s).run c
    let each := runUntilFailure s (a.ranges.elements.map fun x => a.part [x]) c
    (each.1 = whole.1 ∧ each.2.store = whole.2.store) ∧
    ((∀ g, c.store.securityGroup? s.aclGroupName = some g → DistinctSlots g.permissions) →
      ∀ batches : List (List String), (∀ x, x ∈ batches.flatten ↔ x ∈ a.cidrs) →
        let parts := runUntilFailure s (batches.map a.part) c
        parts.1 = whole.1 ∧ ∀ slot, parts.2.store.rangesIn s.aclGroupName slot =
          whole.2.store.rangesIn s.aclGroupName slot) := by
  intro whole each
  have hwhole : whole = runUntilFailure s ([a.cidrs].map a.part) c :=
    (runUntilFailure_one s a c).symm
  have heach : each = runUntilFailure s ((a.ranges.elements.map fun x => [x]).map a.part) c := by
    simp only [each, List.map_map, Function.comp_def]
  have hflat : (a.ranges.elements.map fun x => [x]).flatten = a.ranges.elements := by
    rw [← List.flatMap_def, List.flatMap_singleton']
  cases hg : c.store.securityGroup? s.aclGroupName with
  | none =>
      have hparts : ∀ batches : List (List String), (∀ x, x ∈ batches.flatten ↔ x ∈ a.cidrs) →
          (runUntilFailure s (batches.map a.part) c).1 = whole.1 ∧
            (runUntilFailure s (batches.map a.part) c).2.store = whole.2.store := by
        intro batches hbatches
        obtain ⟨c₁, hrun₁, hstore₁⟩ := runUntilFailure_without_group hc hg a batches
        obtain ⟨c₂, hrun₂, hstore₂⟩ := runUntilFailure_without_group hc hg a [a.cidrs]
        have hempty : batches.flatten = [] ↔ [a.cidrs].flatten = [] := by
          simp only [List.eq_nil_iff_forall_not_mem, hbatches]
          simp
        rw [hwhole, hrun₁, hrun₂]
        exact ⟨if_congr hempty rfl rfl, hstore₁.trans hstore₂.symm⟩
      refine ⟨heach ▸ hparts _ fun x => ?_, fun _ batches hbatches => ?_⟩
      · rw [hflat, ← CidrSet.mem_iff, AclChange.ranges, CidrSet.mem_ofList]
      · obtain ⟨hresult, hstore⟩ := hparts batches hbatches
        exact ⟨hresult, fun slot => by rw [hstore]⟩
  | some g =>
      obtain ⟨w, hw⟩ := Surroundings.exists_store hg
      have hserves : c.Serves w g.permissions := ⟨hc, hw⟩
      refine ⟨?_, fun hd batches hbatches => ?_⟩
      · obtain ⟨c₁, hrun₁, hs₁⟩ := Membership.changeIngress_serves s hserves a.change a.ranges
          a.fromPort a.toPort
        obtain ⟨c₂, hrun₂, hs₂⟩ := runUntilFailure_each hserves a a.ranges.elements
        rw [← a.operation_eq] at hrun₁
        simp only [whole, each, hrun₁, hrun₂, hs₁.store, hs₂.store, and_self]
      · obtain ⟨c₁, ps₁, hrun₁, hs₁, hch₁⟩ :=
          runUntilFailure_changed hserves (hd g rfl) a [a.cidrs]
        obtain ⟨c₂, ps₂, hrun₂, hs₂, hch₂⟩ := runUntilFailure_changed hserves (hd g rfl) a batches
        have hsame : CidrSet.ofList batches.flatten = .ofList [a.cidrs].flatten :=
          CidrSet.ext fun x => by simp [hbatches]
        rw [hsame] at hch₂
        simp only [hwhole, hrun₁, hrun₂, hs₁.store, hs₂.store, w.rangesIn_store]
        refine ⟨trivial, fun slot => congrArg some ?_⟩
        by_cases hslot : slot = a.slot
        · rw [hslot, hch₂.ranges, hch₁.ranges]
        · rw [hch₂.others slot hslot, hch₁.others slot hslot]

/-- A removal that is refused as a whole and takes the last address range of a rule on its way, and
the same removal in parts of which one is made twice. -/
theorem batch_is_one_by_one_of_dropped_rule :
    let s : MembershipSettings := ⟨"ring", none, ["a"], "acl", "dc"⟩
    let g : SecurityGroup := ⟨"acl", [.tcp (.ofList ["10.0.0.1/32", "10.0.0.3/32"]) 7000 7001,
      ⟨"udp", 7000, 7001, .singleton "::/0"⟩]⟩
    let c : Cloud := { store := ⟨[], [g]⟩, faults := { releases := true } }
    let a : AclChange := ⟨.revoke, ["10.0.0.3/32", "10.0.0.2/32", "10.0.0.1/32"], 7000, 7001⟩
    let batches := [["10.0.0.1/32"], ["10.0.0.3/32", "10.0.0.2/32"], ["10.0.0.1/32"]]
    let whole := (a.operation s).run c
    let each := runUntilFailure s (a.ranges.elements.map fun x => a.part [x]) c
    let parts := runUntilFailure s (batches.map a.part) c
    c.Steady ∧ (∀ g, c.store.securityGroup? s.aclGroupName = some g → DistinctSlots g.permissions) ∧
      (∀ x, x ∈ batches.flatten ↔ x ∈ a.cidrs) ∧
      each.1 = whole.1 ∧ each.2.store = whole.2.store ∧ parts.1 = whole.1 ∧
      ∀ slot, parts.2.store.rangesIn s.aclGroupName slot =
        whole.2.store.rangesIn s.aclGroupName slot := by
  intro s g c a batches whole each parts
  have hc : c.Steady := ⟨rfl, rfl, by simp [c]⟩
  have hg : c.store.securityGroup? s.aclGroupName = some g := by decide
  have hd : ∀ g, c.store.securityGroup? s.aclGroupName = some g → DistinctSlots g.permissions := by
    intro g' hg'
    obtain rfl := Option.some.inj (hg.symm.trans hg')
    decide
  have hbatches : ∀ x, x ∈ batches.flatten ↔ x ∈ a.cidrs := by
    intro x
    simp only [batches, a, List.flatten_cons, List.flatten_nil, List.mem_append, List.mem_cons,
      List.not_mem_nil, or_false]
    tauto
  obtain ⟨⟨hresult, hstore⟩, hparts⟩ := batch_is_one_by_one s hc a
  exact ⟨hc, hd, hbatches, hresult, hstore, hparts hd batches hbatches⟩

end NodeSidecar
