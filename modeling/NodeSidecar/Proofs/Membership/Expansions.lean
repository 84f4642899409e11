/-
**Growths of the ring, one after another.**

A growth makes two requests, one that reads the first group of the ring and one that sets its
limits.  Whichever of its requests fails, a growth that fails has changed nothing; and one that
succeeds has grown the limits by its count.  So growths one after another add up, in any order and
in any portions: each limit is what it was, grown by all that has succeeded, but never beyond the
greatest size.

The capacity of a ring is a sum that stops at the greatest size as well.  Stopping on the way is
stopping at the end, so it grows by the same law, whatever further groups the ring has.

Main definitions:

* `Limits.InOrder` — the limits of a group that make sense;
* `Membership.expandEach`, `Membership.achieved` — growths one after another, and the growth that
  has succeeded.

Main results:

* `Membership.expandBy_settles`, `Membership.expandBy_without_group` — **one growth**;
* `Membership.expandEach_store` — growths one after another;
* `toNat_totalCapacity`, `totalCapacity_grow` — the capacity of a ring that grows;
* `ring_growth_adds_up` — **growths of the ring add up**.
-/

import NodeSidecar.Proofs.Membership.Growth
import NodeSidecar.Proofs.Membership.Operations

set_option autoImplicit false

namespace NodeSidecar

/-! ### One growth -/

namespace Membership

variable {s : MembershipSettings} {w : Place s.ringName} {l : Limits} {c : Cloud}

/-- **One growth** makes the limits grow by its count, or fails and changes nothing. -/
theorem expandBy_settles {k : Nat} (h : c.store = w.store (l.grow k)) (n : UInt32) :
    c.Settles () (w.store (l.grow (k + n.toNat))) ((expandBy s n).run c) := by
  by_cases hn : n = 0
  · subst hn
    exact .settled h id
  · rw [expandBy, if_neg hn]
    refine Operation.leased_settles fun c₁ hstore => ?_
    have hread : c₁.Settles (c₁.store.describeGroups [s.ringName]) c₁.store
        (c₁.describeGroups [s.ringName]) := Cloud.attempt_settles _ rfl
    rw [hstore, h, w.describeGroups_store] at hread
    rw [expandPlan, Plan.run]
    generalize c₁.describeGroups [s.ringName] = r at hread ⊢
    cases hread with
    | failed hst hnot => exact .failed (hst.trans rfl) hnot
    | @settled c₂ hst hs =>
        have hwrite : c₂.Settles () (w.store (l.grow (k + n.toNat)))
            (c₂.updateGroup (grown (w.group (l.grow k)) n)) := by
          refine Cloud.attempt_settles _ ?_
          rw [Growing.grown_group, hst, w.updateGroup_store]
          rfl
        simp only [Plan.run]
        generalize c₂.updateGroup (grown (w.group (l.grow k)) n) = r at hwrite ⊢
        cases hwrite with
        | failed hst' hnot =>
            exact .failed (hst'.trans (hst.trans (hstore.trans h).symm)) fun hc => hnot (hs hc)
        | settled hst' hs' =>
            exact .settled hst' fun hc => (hs' (hs hc)).congr (Cloud.untouched_report _ _)

/-- Without a group of the ring a growth fails and changes nothing, unless it is by nothing. -/
theorem expandBy_without_group (h : c.store.group? s.ringName = none) {n : UInt32} (hn : n ≠ 0) :
    ∃ e c', (expandBy s n).run c = (.error e, c') ∧ c'.store = c.store ∧
      (c.Steady → e = .groupNotFound s.ringName ∧ c'.Steady) := by
  have hnone : c.store.describeGroups [s.ringName] = [] := by
    rw [Store.describeGroups, List.filter_eq_nil_iff]
    intro g hg
    have := List.find?_eq_none.1 h g hg
    simpa using this
  rw [expandBy, if_neg hn]
  rcases Operation.leased_cases s.autoscalingEndpoint (expandPlan s n) [] c with
    ⟨e, c', heq, hstore, hnot⟩ | ⟨c₁, c', hstore, hsteady, heq, huntouched⟩
  · exact ⟨e, c', heq, hstore, fun hc => absurd hc hnot⟩
  · have hread : c₁.Settles (c₁.store.describeGroups [s.ringName]) c₁.store
        (c₁.describeGroups [s.ringName]) := Cloud.attempt_settles _ rfl
    rw [hstore, hnone] at hread
    rw [expandPlan, Plan.run] at heq huntouched
    revert heq huntouched
    generalize c₁.describeGroups [s.ringName] = r at hread
    intro heq huntouched
    cases hread with
    | failed hst hnot =>
        exact ⟨_, c', heq, huntouched.store.trans (hst.trans hstore),
          fun hc => absurd (hsteady hc) hnot⟩
    | settled hst hs =>
        exact ⟨_, c', heq, huntouched.store.trans hst,
          fun hc => ⟨rfl, (hs (hsteady hc)).congr huntouched⟩⟩

/-- **A growth that fails has changed nothing**, whatever the provider was told. -/
theorem store_of_expandBy_error {n : UInt32} {e : MembershipError} {c' : Cloud}
    (h : (expandBy s n).run c = (.error e, c')) : c'.store = c.store := by
  cases hg : c.store.group? s.ringName with
  | none =>
      have hn : n ≠ 0 := by
        rintro rfl
        cases h
      obtain ⟨_, c'', heq, hstore, -⟩ := expandBy_without_group hg hn
      rw [heq] at h
      exact (Prod.mk.inj h).2 ▸ hstore
  | some g =>
      obtain ⟨w, hw⟩ := Place.exists_store hg
      have hsettles := expandBy_settles (k := 0) (hw.trans (by rw [Limits.grow_zero])) n
      rw [h] at hsettles
      cases hsettles with
      | failed hstore _ => exact hstore

/-- What is read of the ring is a view of its groups, and reading changes nothing. -/
theorem ring_settles {α : Type} (view : List AutoScalingGroup → α) (success : List LogLine)
    (c : Cloud) : c.Settles (view (c.store.describeGroups [s.ringName])) c.store
      ((Operation.leased s.autoscalingEndpoint (ringPlan s view) success).run c) := by
  refine Operation.leased_settles fun c₁ hstore => ?_
  have hread : c₁.Settles (c₁.store.describeGroups [s.ringName]) c₁.store
      (c₁.describeGroups [s.ringName]) := Cloud.attempt_settles _ rfl
  rw [hstore] at hread
  rw [ringPlan, Plan.run]
  generalize c₁.describeGroups [s.ringName] = r at hread ⊢
  cases hread with
  | settled hst hs => exact .settled hst hs
  | failed hst hnot => exact .failed hst hnot

theorem capacity_of_steady (hc : c.Steady) : ((capacity s).run c).1 =
    .ok (totalCapacity (c.store.describeGroups [s.ringName])) :=
  ((ring_settles totalCapacity _ c).of_steady hc).1

theorem members_of_steady (hc : c.Steady) : ((members s).run c).1 =
    .ok (liveMembers (c.store.describeGroups [s.ringName])) :=
  ((ring_settles liveMembers _ c).of_steady hc).1

/-! ### Growths one after another -/

/-- **Growths one after another**, each to its end, whether those before it have succeeded or not. -/
def expandEach (s : MembershipSettings) :
    List UInt32 → Cloud → List (Except MembershipError Unit) × Cloud
  | [], c => ([], c)
  | n :: counts, c =>
    let (result, c) := (expandBy s n).run c
    let (results, c) := expandEach s counts c
    (result :: results, c)

/-- The growth that has succeeded: the sum of the counts whose results are successes. -/
def achieved : List UInt32 → List (Except MembershipError Unit) → Nat
  | n :: counts, result :: results =>
    (if succeeded result then n.toNat else 0) + achieved counts results
  | _, _ => 0

/-- **Growths one after another** make the limits grow by all that has succeeded. -/
theorem expandEach_store {k : Nat} (h : c.store = w.store (l.grow k)) (counts : List UInt32) :
    (expandEach s counts c).2.store =
      w.store (l.grow (k + achieved counts (expandEach s counts c).1)) := by
  induction counts generalizing c k with
  | nil => exact h
  | cons n counts ih =>
      have hone := expandBy_settles h n
      rw [expandEach]
      generalize (expandBy s n).run c = r at hone ⊢
      cases hone with
      | settled hstore _ =>
          rw [achieved, ← Nat.add_assoc]
          exact ih hstore
      | failed hstore _ =>
          have hzero : ∀ m, k + (0 + m) = k + m := fun m => by rw [Nat.zero_add]
          refine (ih (hstore.trans h)).trans ?_
          exact congrArg (fun m => w.store (l.grow m)) (hzero _).symm

/-- No growth fails of a provider that was told no failure. -/
theorem expandEach_steady {k : Nat} (h : c.store = w.store (l.grow k)) (hc : c.Steady)
    (counts : List UInt32) :
    (expandEach s counts c).1 = counts.map (fun _ => .ok ()) ∧
      (expandEach s counts c).2.Steady := by
  induction counts generalizing c k with
  | nil => exact ⟨rfl, hc⟩
  | cons n counts ih =>
      obtain ⟨hresult, hstore, hsteady⟩ := (expandBy_settles h n).of_steady hc
      obtain ⟨hresults, hsteady'⟩ := ih hstore hsteady
      rw [expandEach]
      exact ⟨List.cons_eq_cons.2 ⟨hresult, hresults⟩, hsteady'⟩

theorem achieved_of_ok (counts : List UInt32) :
    achieved counts (counts.map fun _ => .ok ()) = (counts.map UInt32.toNat).sum := by
  induction counts with
  | nil => rfl
  | cons n counts ih =>
      rw [List.map_cons, achieved, ih, List.map_cons, List.sum_cons]
      rfl

/-- Without a group of the ring all growths fail, but those by nothing. -/
theorem expandEach_without_group (hc : c.Steady) (h : c.store.group? s.ringName = none)
    (counts : List UInt32) :
    (expandEach s counts c).1 =
        counts.map (fun n => if n = 0 then .ok () else .error (.groupNotFound s.ringName)) ∧
      (expandEach s counts c).2.store = c.store := by
  induction counts generalizing c with
  | nil => exact ⟨rfl, rfl⟩
  | cons n counts ih =>
      by_cases hn : n = 0
      · subst hn
        obtain ⟨hresults, hstore⟩ := ih hc h
        exact ⟨List.cons_eq_cons.2 ⟨rfl, hresults⟩, hstore⟩
      · obtain ⟨e, c', heq, hstore, hsteady⟩ := expandBy_without_group h hn
        obtain ⟨rfl, hc'⟩ := hsteady hc
        obtain ⟨hresults, hstore'⟩ := ih hc' (hstore ▸ h)
        rw [expandEach, heq, List.map_cons, if_neg hn]
        exact ⟨List.cons_eq_cons.2 ⟨rfl, hresults⟩, hstore'.trans hstore⟩

end Membership

/-! ### The capacity of a ring that grows -/

theorem toNat_foldl_addSize (groups : List AutoScalingGroup) (sum : UInt32) :
    (groups.foldl (fun sum g => addSize sum g.maxSize) sum).toNat =
      min 4294967295 (sum.toNat + (groups.map fun g => g.maxSize.toNat).sum) := by
  induction groups generalizing sum with
  | nil =>
      have := sum.toNat_lt
      simp
      omega
  | cons g groups ih =>
      rw [List.foldl_cons, ih, toNat_addSize, List.map_cons, List.sum_cons]
      omega

/-- **The capacity of a ring** is the sum of the greatest sizes of its groups, or the greatest size
of all if that is less. -/
theorem toNat_totalCapacity (groups : List AutoScalingGroup) : (totalCapacity groups).toNat =
    min 4294967295 (groups.map fun g => g.maxSize.toNat).sum := by
  rw [totalCapacity, toNat_foldl_addSize]
  simp

/-- **The capacity of a ring grows** by as much as its first group. -/
theorem totalCapacity_grow {name : String} (w : Place name) (l : Limits) (n : Nat) :
    (totalCapacity ((w.store (l.grow n)).describeGroups [name])).toNat =
      min 4294967295 ((totalCapacity ((w.store l).describeGroups [name])).toNat + n) := by
  have hmax : (w.group (l.grow n)).maxSize.toNat =
      min 4294967295 ((w.group l).maxSize.toNat + n) := toNat_growSize l.maxSize n
  simp only [toNat_totalCapacity, w.describeGroups_store, List.map_cons, List.sum_cons, hmax]
  omega

/-- The members of a ring do not depend on its limits. -/
theorem liveMembers_store {name : String} (w : Place name) (l l' : Limits) :
    liveMembers ((w.store l').describeGroups [name]) =
      liveMembers ((w.store l).describeGroups [name]) := by
  simp only [w.describeGroups_store]
  rfl

/-! ### Growth of a ring -/

/-- **The limits of a group make sense** when it is to have as many instances as it may have. -/
def Limits.InOrder (l : Limits) : Prop :=
  l.minSize ≤ l.desiredCapacity ∧ l.desiredCapacity ≤ l.maxSize

theorem Limits.InOrder.grow {l : Limits} (h : l.InOrder) (n : Nat) : (l.grow n).InOrder := by
  obtain ⟨hmin, hmax⟩ := h
  rw [UInt32.le_iff_toNat_le] at hmin hmax
  constructor
  · rw [UInt32.le_iff_toNat_le, Limits.grow, toNat_growSize, toNat_growSize]
    omega
  · rw [UInt32.le_iff_toNat_le, Limits.grow, toNat_growSize, toNat_growSize]
    omega

/-- **A provider whose ring has grown**: the limits of its first group `g` have grown by `total`,
each up to the greatest size; the groups around it, the instances and the security groups are the
same; so are the members of the ring, and its capacity has grown as well. -/
structure RingGrown (s : MembershipSettings) (g : AutoScalingGroup) (total : Nat)
    (c c' : Cloud) : Prop where
  place : ∃ w : Place s.ringName, c.store = w.store g.limits ∧
    c'.store = w.store (g.limits.grow total)
  sizes : ∃ g', c'.store.group? s.ringName = some g' ∧
    g'.minSize.toNat = min 4294967295 (g.minSize.toNat + total) ∧
    g'.maxSize.toNat = min 4294967295 (g.maxSize.toNat + total) ∧
    g'.desiredCapacity.toNat = min 4294967295 (g.desiredCapacity.toNat + total)
  inOrder : g.limits.InOrder → (g.limits.grow total).InOrder
  capacity : ∃ before after, ((Membership.capacity s).run c).1 = .ok before ∧
    ((Membership.capacity s).run c').1 = .ok after ∧
    after.toNat = min 4294967295 (before.toNat + total)
  members : ∃ ids, ((Membership.members s).run c).1 = .ok ids ∧
    ((Membership.members s).run c').1 = .ok ids

/-- A ring whose first group has grown in its place has grown. -/
theorem ringGrown_of_store {s : MembershipSettings} {g : AutoScalingGroup} {total : Nat}
    {c c' : Cloud} {w : Place s.ringName} (hc : c.Steady) (hc' : c'.Steady)
    (h : c.store = w.store g.limits) (h' : c'.store = w.store (g.limits.grow total)) :
    RingGrown s g total c c' where
  place := ⟨w, h, h'⟩
  sizes := ⟨_, h' ▸ w.group?_store _, toNat_growSize _ _, toNat_growSize _ _, toNat_growSize _ _⟩
  inOrder hg := hg.grow total
  capacity := by
    refine ⟨_, _, Membership.capacity_of_steady hc, Membership.capacity_of_steady hc', ?_⟩
    rw [h, h']
    exact totalCapacity_grow w g.limits total
  members := by
    refine ⟨_, Membership.members_of_steady hc, ?_⟩
    rw [Membership.members_of_steady hc', h', liveMembers_store w g.limits, ← h]

/-- **Growths of the ring add up.**  Let growths be made one after another.

* Whatever the provider was told to fail, the limits of the first group of the ring grow by all that
  has succeeded, and nothing else of the store changes.
* If it was told no failure then all growths succeed and the ring has grown by the sum of their
  counts, so that counts in another order or in other portions leave the same store.
* Without a group of the ring every growth fails for that reason, but those by nothing.
* A growth that fails, for whatever reason, has changed nothing. -/
theorem ring_growth_adds_up (s : MembershipSettings) (c : Cloud) :
    (∀ g, c.store.group? s.ringName = some g → ∀ counts : List UInt32,
      let after := Membership.expandEach s counts c
      (∃ w : Place s.ringName, c.store = w.store g.limits ∧
        after.2.store = w.store (g.limits.grow (Membership.achieved counts after.1))) ∧
      (c.Steady → (∀ result ∈ after.1, result = .ok ()) ∧
        RingGrown s g (counts.map UInt32.toNat).sum c after.2 ∧
        ∀ counts' : List UInt32, (counts'.map UInt32.toNat).sum = (counts.map UInt32.toNat).sum →
          (Membership.expandEach s counts' c).2.store = after.2.store)) ∧
    (c.Steady → c.store.group? s.ringName = none → ∀ counts : List UInt32,
      (Membership.expandEach s counts c).1 =
          counts.map (fun n => if n = 0 then .ok () else .error (.groupNotFound s.ringName)) ∧
        (Membership.expandEach s counts c).2.store = c.store) ∧
    ∀ n e c', (Membership.expandBy s n).run c = (.error e, c') → c'.store = c.store := by
  refine ⟨fun g hg counts => ?_, Membership.expandEach_without_group,
    fun n e c' => Membership.store_of_expandBy_error⟩
  intro after
  obtain ⟨w, hw⟩ := Place.exists_store hg
  have hw₀ : c.store = w.store (g.limits.grow 0) := by rw [hw, Limits.grow_zero]
  have hstore (counts : List UInt32) := Membership.expandEach_store hw₀ counts
  simp only [Nat.zero_add] at hstore
  refine ⟨⟨w, hw, hstore counts⟩, fun hc => ?_⟩
  have hgrown (counts : List UInt32) : (Membership.expandEach s counts c).2.store =
      w.store (g.limits.grow (counts.map UInt32.toNat).sum) := by
    rw [hstore, (Membership.expandEach_steady hw₀ hc counts).1, Membership.achieved_of_ok]
  obtain ⟨hresults, hc'⟩ := Membership.expandEach_steady hw₀ hc counts
  refine ⟨fun result hresult => ?_, ringGrown_of_store hc hc' hw (hgrown counts),
    fun counts' hsum => ?_⟩
  · rw [show after.1 = counts.map fun _ => .ok () from hresults] at hresult
    obtain ⟨_, -, rfl⟩ := List.mem_map.1 hresult
    rfl
  · rw [hgrown counts', hsum, ← hgrown counts]

/-- Growths up to the greatest size, in a ring with a further group and with releases that fail;
growths without a group; and a growth whose first request fails. -/
theorem ring_growth_adds_up_of_full_ring :
    let s : MembershipSettings := ⟨"ring", none, ["a"], "acl", "dc"⟩
    let g : AutoScalingGroup := ⟨"ring", 3, 6, 3, [⟨"i-1", "InService"⟩]⟩
    let c : Cloud :=
      { store := ⟨[⟨"other", 1, 1, 1, []⟩, g, ⟨"ring", 1, 2, 1, [⟨"i-2", "InService"⟩]⟩], []⟩
        faults := { releases := true } }
    let bare : Cloud := { store := ⟨[⟨"other", 1, 1, 1, []⟩], []⟩ }
    let failing : Cloud := { c with faults := { nextRequest := some .lockPoisoned } }
    c.Steady ∧ c.store.group? s.ringName = some g ∧
      RingGrown s g 4294967292 c (Membership.expandEach s [2, 4294967290] c).2 ∧
      (Membership.expandEach s [4294967290, 1, 1] c).2.store =
        (Membership.expandEach s [2, 4294967290] c).2.store ∧
      bare.Steady ∧ bare.store.group? s.ringName = none ∧
      (Membership.expandEach s [0, 1] bare).1 = [.ok (), .error (.groupNotFound "ring")] ∧
      ∃ c', (Membership.expandBy s 1).run failing = (.error (.cloud .lockPoisoned), c') ∧
        c'.store = c.store := by
  intro s g c bare failing
  have hc : c.Steady := ⟨rfl, rfl, by simp [c]⟩
  have hg : c.store.group? s.ringName = some g := by decide
  have hbare : bare.Steady := ⟨rfl, rfl, by simp [bare]⟩
  have hnone : bare.store.group? s.ringName = none := by decide
  obtain ⟨hgrows, -⟩ := ring_growth_adds_up s c
  obtain ⟨-, hresults, -⟩ := ring_growth_adds_up s bare
  obtain ⟨-, -, hfails⟩ := ring_growth_adds_up s failing
  obtain ⟨-, hadds⟩ := hgrows g hg [2, 4294967290]
  obtain ⟨-, hgrown, hsame⟩ := hadds hc
  have hfail : (Membership.expandBy s 1).run failing =
      (.error (.cloud .lockPoisoned), ((Membership.expandBy s 1).run failing).2) := by rfl
  exact ⟨hc, hg, hgrown, hsame [4294967290, 1, 1] (by decide), hbare, hnone,
    (hresults hbare hnone [0, 1]).1.trans (by rfl), _, hfail, hfails 1 _ _ hfail⟩

end NodeSidecar
