/-
**What is seen of the ring.**

Members, capacity and snapshot of the ring are three questions of one kind: one request, whose
answer is turned into the result.  So they agree with each other and with the audit.  The members
are all instances of the groups of the ring that are not on their way out, in the order in which the
provider gives them, each as often as it is there; the capacity is the sum of the greatest sizes of
these groups, cut off at the greatest number there is, so that the order of the groups has no say in
it.

An audit that cannot see the ring, because its client cannot be opened or its request fails, says so
and changes nothing.  A client that cannot be released does not keep it from seeing the ring.

Main definitions:

* `Text.EqualUpToCase` — texts that differ in the case of ASCII letters only;
* `GroupInstance.IsLeaving` — an instance on its way out;
* `ringMembers`, `ringSize` — the members of a ring and the sum of its sizes;
* `Cloud.Blocked` — a provider that is told to fail the next opening or the next request;
* `RingSeen` — what the operations and the audit make of the ring.

Main results:

* `GroupInstance.isTerminal_iff` — the states of an instance on its way out;
* `liveMembers_describeGroups`, `toNat_totalCapacity_describeGroups` — members and capacity;
* `Membership.ring_answered`, `Membership.ring_blocked` — a question about the ring;
* `ring_view_is_exact` — **what is seen of the ring is what is there**.
-/

import NodeSidecar.Proofs.Membership.Calls
import NodeSidecar.Proofs.Membership.Expansions
import NodeSidecar.Text.Digits

set_option autoImplicit false

namespace NodeSidecar

/-! ### Letters in either case -/

namespace Text

/-- The same character, or the same ASCII letter in the other case. -/
def SameLetter (c d : Char) : Prop :=
  c = d ∨ (isLetter c = true ∧ isLetter d = true ∧
    (c.toNat = d.toNat + 32 ∨ d.toNat = c.toNat + 32))

instance (c d : Char) : Decidable (SameLetter c d) := inferInstanceAs (Decidable (_ ∨ _))

/-- **Texts that differ in the case of ASCII letters only.** -/
def EqualUpToCase (s t : String) : Prop := List.Forall₂ SameLetter s.toList t.toList

instance (s t : String) : Decidable (EqualUpToCase s t) :=
  inferInstanceAs (Decidable (List.Forall₂ _ _ _))

theorem isLetter_iff {c : Char} : isLetter c = true ↔
    (97 ≤ c.toNat ∧ c.toNat ≤ 122) ∨ (65 ≤ c.toNat ∧ c.toNat ≤ 90) := by
  simp only [isLetter, Bool.or_eq_true, Bool.and_eq_true, decide_eq_true_eq]
  rfl

theorem toNat_toLower (c : Char) :
    c.toLower.toNat = if 65 ≤ c.toNat ∧ c.toNat ≤ 90 then c.toNat + 32 else c.toNat := by
  have hcapital : (c.val ≥ 'A'.val ∧ c.val ≤ 'Z'.val) ↔ 65 ≤ c.toNat ∧ c.toNat ≤ 90 := Iff.rfl
  unfold Char.toLower
  split
  · next h =>
    have hle : c.val.toNat ≤ 90 := (hcapital.1 h).2
    have hshift : ('a'.val - 'A'.val).toNat = 32 := by decide
    rw [if_pos (hcapital.1 h)]
    show (c.val + ('a'.val - 'A'.val)).toNat = c.val.toNat + 32
    rw [UInt32.toNat_add, hshift]
    omega
  · next h => rw [if_neg (mt hcapital.2 h)]

/-- A character becomes one that is no capital when the two are the same letter. -/
theorem toLower_eq_iff {c d : Char} (hd : ¬ (65 ≤ d.toNat ∧ d.toNat ≤ 90)) :
    c.toLower = d ↔ SameLetter c d := by
  rw [SameLetter, isLetter_iff, isLetter_iff, ← Char.toNat_inj, ← Char.toNat_inj, toNat_toLower]
  split
  · omega
  · omega

/-- **A text becomes one without capitals when the two differ in the case of letters only.** -/
theorem toLower_text_eq_iff {s t : String}
    (ht : ∀ d ∈ t.toList, ¬ (65 ≤ d.toNat ∧ d.toNat ≤ 90)) : s.toLower = t ↔ EqualUpToCase s t := by
  rw [EqualUpToCase, ← String.toList_inj,
    show s.toLower.toList = s.toList.map Char.toLower from String.toList_map]
  generalize s.toList = cs
  generalize t.toList = ds at ht
  induction cs generalizing ds with
  | nil => cases ds <;> simp
  | cons c cs ih =>
      cases ds with
      | nil => simp
      | cons d ds =>
          have hd := ht d List.mem_cons_self
          have htail := ih ds fun e he => ht e (List.mem_cons_of_mem d he)
          rw [List.map_cons, List.cons.injEq, List.forall₂_cons, toLower_eq_iff hd, htail]

end Text

/-! ### Members and capacity -/

/-- **An instance on its way out**: its state is one of three, in any case of letters. -/
def GroupInstance.IsLeaving (i : GroupInstance) : Prop :=
  ∃ state ∈ ["terminating", "shutting-down", "terminated"],
    Text.EqualUpToCase i.lifecycleState state

instance (i : GroupInstance) : Decidable i.IsLeaving :=
  inferInstanceAs (Decidable (∃ state ∈ _, _))

theorem GroupInstance.isTerminal_iff {i : GroupInstance} : i.isTerminal = true ↔ i.IsLeaving := by
  have hall : terminalStates.all (fun state => state.toList.all fun d =>
      decide (¬ (65 ≤ d.toNat ∧ d.toNat ≤ 90))) = true := by decide +kernel
  have hsmall : ∀ state ∈ terminalStates, ∀ d ∈ state.toList, ¬ (65 ≤ d.toNat ∧ d.toNat ≤ 90) := by
    simpa only [List.all_eq_true, decide_eq_true_eq] using hall
  rw [isTerminal, List.contains_iff_mem]
  constructor
  · intro h
    exact ⟨_, h, (Text.toLower_text_eq_iff (hsmall _ h)).1 rfl⟩
  · rintro ⟨state, hstate, h⟩
    rwa [(Text.toLower_text_eq_iff (hsmall _ hstate)).2 h]

/-- **The members of a ring**: the instances that are not on their way out, of all groups of its
name, in their order and as often as they are there. -/
def ringMembers (ring : String) (groups : List AutoScalingGroup) : List String :=
  groups.flatMap fun g =>
    if g.name = ring then
      g.instances.filterMap fun i => if i.IsLeaving then none else some i.instanceId
    else []

/-- **The sum of the greatest sizes** of all groups of a name. -/
def ringSize (ring : String) (groups : List AutoScalingGroup) : Nat :=
  (groups.map fun g => if g.name = ring then g.maxSize.toNat else 0).sum

/-- The order of the groups has no say in their size. -/
theorem ringSize_perm {ring : String} {groups groups' : List AutoScalingGroup}
    (h : groups.Perm groups') : ringSize ring groups = ringSize ring groups' :=
  (h.map _).sum_eq

theorem liveMembers_cons (g : AutoScalingGroup) (groups : List AutoScalingGroup) :
    liveMembers (g :: groups) =
      (g.instances.filterMap fun i => if i.IsLeaving then none else some i.instanceId) ++
        liveMembers groups := by
  have hone (is : List GroupInstance) :
      (is.filter fun i => !i.isTerminal).map GroupInstance.instanceId =
        is.filterMap fun i => if i.IsLeaving then none else some i.instanceId := by
    induction is with
    | nil => rfl
    | cons i is ih =>
        by_cases hi : i.IsLeaving
        · have hterminal := GroupInstance.isTerminal_iff.2 hi
          simp [hi, hterminal, ih]
        · have hstays : i.isTerminal = false := by simpa using mt GroupInstance.isTerminal_iff.1 hi
          simp [hi, hstays, ih]
  rw [liveMembers, List.flatMap_cons, List.filter_append, List.map_append, hone]
  rfl

theorem describeGroups_cons (ring : String) (g : AutoScalingGroup) (groups : List AutoScalingGroup)
    (others : List SecurityGroup) :
    Store.describeGroups ⟨g :: groups, others⟩ [ring] =
      if g.name = ring then g :: Store.describeGroups ⟨groups, others⟩ [ring]
      else Store.describeGroups ⟨groups, others⟩ [ring] := by
  simp [Store.describeGroups, List.filter_cons]

/-- **The live members of the groups that are described are the members of the ring.** -/
theorem liveMembers_describeGroups (s : Store) (ring : String) :
    liveMembers (s.describeGroups [ring]) = ringMembers ring s.groups := by
  obtain ⟨groups, others⟩ := s
  induction groups with
  | nil => rfl
  | cons g groups ih =>
      rw [ringMembers] at ih
      rw [describeGroups_cons, ringMembers, List.flatMap_cons, ← ih]
      split
      · exact liveMembers_cons g _
      · rw [List.nil_append]

/-- **Their capacity is the sum of their greatest sizes**, cut off at the greatest number. -/
theorem toNat_totalCapacity_describeGroups (s : Store) (ring : String) :
    (totalCapacity (s.describeGroups [ring])).toNat = min 4294967295 (ringSize ring s.groups) := by
  obtain ⟨groups, others⟩ := s
  rw [toNat_totalCapacity, ringSize]
  congr 1
  induction groups with
  | nil => rfl
  | cons g groups ih =>
      rw [describeGroups_cons, List.map_cons, List.sum_cons, ← ih]
      split
      · rw [List.map_cons, List.sum_cons]
      · rw [Nat.zero_add]

/-! ### Questions about the ring -/

namespace Cloud

variable {c : Cloud}

/-- **The next opening of a client, or the next request, is told to fail.** -/
def Blocked (c : Cloud) : Prop := c.faults.nextOpen ≠ none ∨ c.faults.failure 0 ≠ none

/-- A request makes no report, and does not change what releases are told. -/
theorem attempt_quiet {α : Type} (c : Cloud) (r : Request)
    (act : Store → Except CloudError (α × Store)) :
    (c.attempt r act).2.log = c.log ∧
      (c.attempt r act).2.faults.releases = c.faults.releases := by
  have htake : c.takeScript.takeFailure.2.log = c.log ∧
      c.takeScript.takeFailure.2.faults.releases = c.faults.releases := by
    unfold takeScript
    split
    · exact ⟨rfl, rfl⟩
    · exact ⟨rfl, rfl⟩
    · exact ⟨rfl, rfl⟩
  unfold attempt
  generalize c.takeScript.takeFailure = taken at htake
  obtain ⟨_ | e, c'⟩ := taken
  · simp only
    split
    · exact htake
    · exact htake
  · exact htake

/-- The report on a release, if it fails. -/
def releaseReport (c : Cloud) (warning : String) : List LogLine :=
  if c.faults.releases then [.warn warning] else []

theorem eq_of_mem_releaseReport {warning : String} {line : LogLine}
    (h : line ∈ c.releaseReport warning) : line = .warn warning := by
  unfold releaseReport at h
  split at h
  · exact List.mem_singleton.1 h
  · cases h

theorem log_afterRelease (c : Cloud) (warning : String) :
    (c.afterRelease warning).log = c.log ++ c.releaseReport warning := by
  unfold afterRelease releaseReport
  simp only
  split
  · rfl
  · exact (List.append_nil _).symm

end Cloud

/-- **The reports of an operation** are those of its plan, then that on a release that fails, and
then those on its success. -/
theorem Operation.log_leased {α : Type} {c : Cloud} (endpoint : String)
    (plan : Plan (Except MembershipError α)) (success : List LogLine)
    (h : c.faults.nextOpen = none) :
    ∃ c₁ c', c₁.store = c.store ∧ c₁.log = c.log ∧ c₁.faults = c.faults ∧
      (leased endpoint plan success).run c = ((plan.run c₁).1, c') ∧
      c'.store = (plan.run c₁).2.store ∧
      c'.log = (plan.run c₁).2.log ++
        (plan.run c₁).2.releaseReport (Cloud.finishWarning (succeeded (plan.run c₁).1)) ++
        if succeeded (plan.run c₁).1 then success else [] := by
  obtain ⟨lease, c₁, heq, hfresh, -⟩ := Cloud.open_of_none h endpoint
  have hopened : c₁.store = c.store ∧ c₁.log = c.log ∧ c₁.faults = c.faults := by
    rw [Cloud.open, h] at heq
    obtain rfl := (Prod.mk.inj heq).2
    exact ⟨rfl, rfl, rfl⟩
  refine ⟨c₁, _, hopened.1, hopened.2.1, hopened.2.2, by rw [run, heq], ?_, ?_⟩
  · split
    · rw [(Cloud.untouched_foldl_report _ _).store, (Cloud.untouched_finish _ _ _).store]
    · rw [(Cloud.untouched_finish _ _ _).store]
  · simp only [Cloud.finish_of_fresh hfresh]
    split
    · rw [Cloud.foldl_report]
      exact congrArg (· ++ success) (Cloud.log_afterRelease _ _)
    · rw [Cloud.log_afterRelease, List.append_nil]

namespace Membership

variable {α : Type} {s : MembershipSettings} {c : Cloud}

/-- **A question about the ring is answered** unless the provider is told to fail it. -/
theorem ring_answered (view : List AutoScalingGroup → α) (success : List LogLine)
    (h : ¬ c.Blocked) : ∃ c',
      (Operation.leased s.autoscalingEndpoint (ringPlan s view) success).run c =
        (.ok (view (c.store.describeGroups [s.ringName])), c') ∧ c'.store = c.store ∧
      c'.log = c.log ++ c.releaseReport (Cloud.finishWarning true) ++ success := by
  obtain ⟨hopen, hfailure⟩ := not_or.1 h
  obtain ⟨c₁, c', hstore₁, hlog₁, hfaults₁, hrun, hstore, hlog⟩ :=
    Operation.log_leased s.autoscalingEndpoint (ringPlan s view) success (not_not.1 hopen)
  obtain ⟨hquiet, hreleases⟩ := c₁.attempt_quiet (.describeGroups [s.ringName])
    fun s' => .ok (s'.describeGroups [s.ringName], s')
  obtain ⟨c₂, hread, -, hstore₂⟩ := c₁.attempt_of_settled (.describeGroups [s.ringName])
    (fun s' => .ok (s'.describeGroups [s.ringName], s')) (hfaults₁ ▸ not_not.1 hfailure) rfl
  have hplan : (ringPlan s view).run c₁ =
      (.ok (view (c.store.describeGroups [s.ringName])), c₂) := by
    rw [ringPlan, Plan.run, Cloud.describeGroups, hread, hstore₁]
    rfl
  rw [hread] at hquiet hreleases
  rw [hplan] at hrun hstore hlog
  refine ⟨c', hrun, hstore.trans (hstore₂.trans hstore₁), ?_⟩
  rw [hlog, hquiet, hlog₁, Cloud.releaseReport, hreleases, hfaults₁]
  rfl

/-- **Otherwise it fails**, changes nothing, and makes no report but on its release. -/
theorem ring_blocked (view : List AutoScalingGroup → α) (success : List LogLine)
    (h : c.Blocked) : ∃ e c' lines,
      (Operation.leased s.autoscalingEndpoint (ringPlan s view) success).run c = (.error e, c') ∧
      c'.store = c.store ∧ c'.log = c.log ++ lines ∧
      ∀ line ∈ lines, line = .warn (Cloud.finishWarning false) := by
  cases hopen : c.faults.nextOpen with
  | some e =>
      have heq := Cloud.open_of_some hopen s.autoscalingEndpoint
      refine ⟨.cloud e, (c.open s.autoscalingEndpoint).2, [], ?_, ?_, ?_, by simp⟩
      · rw [Operation.run, heq]
      · rw [heq]
      · rw [heq]
        exact (List.append_nil _).symm
  | none =>
      obtain ⟨e, hfailure⟩ := Option.ne_none_iff_exists'.1 (h.resolve_left fun hn => hn hopen)
      obtain ⟨c₁, c', hstore₁, hlog₁, hfaults₁, hrun, hstore, hlog⟩ :=
        Operation.log_leased s.autoscalingEndpoint (ringPlan s view) success hopen
      obtain ⟨hquiet, -⟩ := c₁.attempt_quiet (.describeGroups [s.ringName])
        fun s' => .ok (s'.describeGroups [s.ringName], s')
      obtain ⟨c₂, hread, -, hstore₂⟩ := c₁.attempt_of_failure (.describeGroups [s.ringName])
        (fun s' => .ok (s'.describeGroups [s.ringName], s')) (hfaults₁ ▸ hfailure)
      have hplan : (ringPlan s view).run c₁ = (.error (.cloud e), c₂) := by
        rw [ringPlan, Plan.run, Cloud.describeGroups, hread]
        rfl
      rw [hread] at hquiet
      rw [hplan] at hrun hstore hlog
      refine ⟨.cloud e, c', c₂.releaseReport (Cloud.finishWarning false), hrun,
        hstore.trans (hstore₂.trans hstore₁), ?_, fun line => Cloud.eq_of_mem_releaseReport⟩
      rw [hlog, hquiet, hlog₁]
      exact List.append_nil _

end Membership

/-! ### The view of the ring -/

/-- **What the operations and the audit make of the ring**: the members, the capacity, both at
once, and both again with a report whether there are fewer members than there may be. -/
structure RingSeen (s : MembershipSettings) (c : Cloud) (ids : List String) (size : UInt32) :
    Prop where
  members : ((Membership.members s).run c).1 = .ok ids
  capacity : ((Membership.capacity s).run c).1 = .ok size
  snapshot : ((Membership.snapshot s).run c).1 = .ok ⟨ids, size⟩
  audit : (Membership.audit s c).1 = some ⟨ids, size⟩
  report : (Membership.audit s c).2.log =
    c.log ++ c.releaseReport (Cloud.finishWarning true) ++
      [if ids.length < size.toNat then .warn "Ring is below capacity" else .info "Ring at capacity"]

namespace Membership

variable {s : MembershipSettings} {c : Cloud}

/-- An audit is a snapshot, with a report on what became of it. -/
theorem audit_eq {result : Except MembershipError Snapshot} {c' : Cloud}
    (h : (snapshot s).run c = (result, c')) :
    audit s c = ((conclude result).1, c'.report (conclude result).2) := by
  rw [audit, h]

/-- The report on a snapshot warns when there are fewer members than there may be. -/
theorem auditReport_eq (ids : List String) (size : UInt32) :
    auditReport ⟨ids, size⟩ = if ids.length < size.toNat then .warn "Ring is below capacity"
      else .info "Ring at capacity" := by
  by_cases h : ids.length < size.toNat
  · simp [auditReport, Snapshot.belowCapacity, Snapshot.memberCount, h]
  · simp [auditReport, Snapshot.belowCapacity, Snapshot.memberCount, h]

/-- **All who ask for the ring are given the same answer**, unless the provider is told to fail. -/
theorem ringSeen (h : ¬ c.Blocked) :
    RingSeen s c (ringMembers s.ringName c.store.groups)
      (totalCapacity (c.store.describeGroups [s.ringName])) := by
  rw [← liveMembers_describeGroups]
  obtain ⟨_, hmembers, -⟩ := ring_answered (s := s) liveMembers [.info "Queried ring membership"] h
  obtain ⟨_, hcapacity, -⟩ := ring_answered (s := s) totalCapacity [] h
  obtain ⟨c', hsnapshot, -, hlog⟩ := ring_answered (s := s) Snapshot.ofGroups [] h
  have haudit := audit_eq hsnapshot
  exact
    { members := congrArg Prod.fst hmembers
      capacity := congrArg Prod.fst hcapacity
      snapshot := congrArg Prod.fst hsnapshot
      audit := congrArg Prod.fst haudit
      report := by
        rw [haudit, ← auditReport_eq, Cloud.report, hlog, List.append_nil]
        rfl }

/-- An audit leaves the groups as they were. -/
theorem store_audit (s : MembershipSettings) (c : Cloud) : (audit s c).2.store = c.store := by
  by_cases h : c.Blocked
  · obtain ⟨e, c', lines, hsnapshot, hstore, -⟩ := ring_blocked (s := s) Snapshot.ofGroups [] h
    rw [audit_eq hsnapshot]
    exact hstore
  · obtain ⟨c', hsnapshot, hstore, -⟩ := ring_answered (s := s) Snapshot.ofGroups [] h
    rw [audit_eq hsnapshot]
    exact hstore

end Membership

/-- **What is seen of the ring is what is there.**

* Unless the provider is told to fail the opening of a client or the request, members, capacity,
  snapshot and audit all give the members of the ring and the sum of its sizes, cut off at the
  greatest number; the audit warns exactly when there are fewer members; and the capacity is that of
  every provider with the same groups in any order.
* If it is told to fail one of them then the audit gives nothing and reports that.
* In either case the audit changes nothing. -/
theorem ring_view_is_exact (s : MembershipSettings) (c : Cloud) :
    (¬ c.Blocked → ∃ size : UInt32,
      size.toNat = min 4294967295 (ringSize s.ringName c.store.groups) ∧
      RingSeen s c (ringMembers s.ringName c.store.groups) size ∧
      ∀ c' : Cloud, ¬ c'.Blocked → c'.store.groups.Perm c.store.groups →
        ((Membership.capacity s).run c').1 = .ok size) ∧
    (c.Blocked → (Membership.audit s c).1 = none ∧
      ∃ lines, (∀ line ∈ lines, line = .warn (Cloud.finishWarning false)) ∧
        (Membership.audit s c).2.log =
          c.log ++ lines ++ [.warn "Ring audit failed, retrying on next fire"]) ∧
    (Membership.audit s c).2.store = c.store := by
  refine ⟨fun h => ?_, fun h => ?_, Membership.store_audit s c⟩
  · refine ⟨_, toNat_totalCapacity_describeGroups c.store s.ringName, Membership.ringSeen h,
      fun c' h' hperm => ?_⟩
    rw [(Membership.ringSeen h').capacity]
    refine congrArg Except.ok (UInt32.toNat_inj.1 ?_)
    rw [toNat_totalCapacity_describeGroups, toNat_totalCapacity_describeGroups,
      ringSize_perm hperm]
  · obtain ⟨e, c', lines, hsnapshot, -, hlog, hlines⟩ :=
      Membership.ring_blocked (s := s) Snapshot.ofGroups [] h
    rw [Membership.audit_eq hsnapshot]
    exact ⟨rfl, lines, hlines, congrArg (· ++ _) hlog⟩

/-- A ring in two groups whose sizes add up to more than there is, with instances on their way out
and one that is there twice; the same groups in the other order, with releases that fail; and an
audit whose second request is told to fail, which does not concern it, and one whose first is. -/
theorem ring_view_is_exact_of_great_ring :
    let s : MembershipSettings := ⟨"ring", none, ["a"], "acl", "dc"⟩
    let g : AutoScalingGroup := ⟨"ring", 1, 4294967295, 1,
      [⟨"i-1", "InService"⟩, ⟨"i-2", "Terminating"⟩, ⟨"i-1", "InService"⟩]⟩
    let g' : AutoScalingGroup := ⟨"ring", 1, 2, 1, [⟨"i-3", "SHUTTING-DOWN"⟩, ⟨"i-4", "Pending"⟩]⟩
    let other : AutoScalingGroup := ⟨"Ring", 1, 7, 1, [⟨"i-5", "InService"⟩]⟩
    let c : Cloud :=
      { store := ⟨[g, other, g'], []⟩
        faults := { script := [none, some .lockPoisoned] } }
    let turned : Cloud := { store := ⟨[g', g, other], []⟩, faults := { releases := true } }
    let failing : Cloud := { c with faults := { nextRequest := some .lockPoisoned } }
    ¬ c.Blocked ∧ ¬ turned.Blocked ∧ turned.store.groups.Perm c.store.groups ∧ failing.Blocked ∧
      RingSeen s c ["i-1", "i-1", "i-4"] 4294967295 ∧
      ((Membership.capacity s).run turned).1 = .ok 4294967295 ∧
      (Membership.audit s failing).1 = none ∧ (Membership.audit s failing).2.store = c.store := by
  intro s g g' other c turned failing
  have hc : ¬ c.Blocked := by simp [Cloud.Blocked, c, Faults.failure]
  have hturned : ¬ turned.Blocked := by simp [Cloud.Blocked, turned, Faults.failure]
  have hperm : turned.store.groups.Perm c.store.groups := by decide +kernel
  have hfailing : failing.Blocked := .inr (by simp [failing, Faults.failure])
  have hmembers : ringMembers s.ringName c.store.groups = ["i-1", "i-1", "i-4"] := by
    decide +kernel
  have hsize : ringSize s.ringName c.store.groups = 4294967297 := by decide +kernel
  obtain ⟨hseen, -, -⟩ := ring_view_is_exact s c
  obtain ⟨size, htotal, hring, hsame⟩ := hseen hc
  rw [hsize] at htotal
  rw [hmembers] at hring
  obtain rfl : size = 4294967295 := UInt32.toNat_inj.1 htotal
  obtain ⟨-, hblocked, hstore⟩ := ring_view_is_exact s failing
  exact ⟨hc, hturned, hperm, hfailing, hring, hsame turned hturned hperm, (hblocked hfailing).1,
    hstore⟩

end NodeSidecar
