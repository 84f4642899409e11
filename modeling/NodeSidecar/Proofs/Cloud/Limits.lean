/-
**The limits of an autoscaling group.**

A request that reads or sets the limits of a group means the first group of its name, so all that it
can change in the store are these limits; the groups around it, and its instances, stay as they are.

Main definitions:

* `Limits`, `Limits.grow`, `Limits.update` — the limits of a group, grown by a number, and the
  request that sets them;
* `Place`, `Place.store` — a store around the limits of the first autoscaling group of a name;
* `Cloud.Holds` — a steady provider with these limits in this place.

Main results:

* `addSize_growSize` — growing by one number and another is growing by their sum;
* `Place.exists_store` — every store with a group of the name is of this form;
* `Cloud.Holds.describeGroups`, `Cloud.Holds.updateGroup` — **the limits are read and set**.
-/

import NodeSidecar.Membership.Operation
import NodeSidecar.Proofs.Cloud.Requests

set_option autoImplicit false

namespace NodeSidecar

/-- The limits of an autoscaling group. -/
structure Limits where
  minSize : UInt32
  maxSize : UInt32
  desiredCapacity : UInt32
  deriving DecidableEq

/-- The limits of a group. -/
def AutoScalingGroup.limits (g : AutoScalingGroup) : Limits :=
  ⟨g.minSize, g.maxSize, g.desiredCapacity⟩

/-- The request that sets the limits of a group. -/
def Limits.update (l : Limits) (name : String) : CapacityUpdate :=
  ⟨name, l.minSize, l.maxSize, l.desiredCapacity⟩

/-! ### Growth -/

/-- A size grown by a number, or the greatest size if that is less. -/
def growSize (a : UInt32) (n : Nat) : UInt32 := UInt32.ofNat (min 4294967295 (a.toNat + n))

theorem toNat_growSize (a : UInt32) (n : Nat) :
    (growSize a n).toNat = min 4294967295 (a.toNat + n) := by
  rw [growSize, UInt32.toNat_ofNat_of_lt']
  change min 4294967295 (a.toNat + n) < 4294967296
  omega

theorem growSize_zero (a : UInt32) : growSize a 0 = a := by
  have ha := a.toNat_lt
  rw [← UInt32.toNat_inj, toNat_growSize]
  omega

/-- **Growing twice is growing by the sum**, also when the greatest size is reached. -/
theorem addSize_growSize (a : UInt32) (k : Nat) (n : UInt32) :
    addSize (growSize a k) n = growSize a (k + n.toNat) := by
  rw [← UInt32.toNat_inj, toNat_addSize, toNat_growSize, toNat_growSize]
  omega

/-- The limits grown by a number, each of them. -/
def Limits.grow (l : Limits) (n : Nat) : Limits :=
  ⟨growSize l.minSize n, growSize l.maxSize n, growSize l.desiredCapacity n⟩

theorem Limits.grow_zero (l : Limits) : l.grow 0 = l := by
  simp only [grow, growSize_zero]

/-! ### The place of a group -/

/-- What a store holds around the limits of the first autoscaling group of a name. -/
structure Place (name : String) where
  before : List AutoScalingGroup
  instances : List GroupInstance
  after : List AutoScalingGroup
  securityGroups : List SecurityGroup
  first : ∀ g ∈ before, g.name ≠ name

namespace Place

variable {name : String}

/-- The group of the name, with the given limits. -/
def group (w : Place name) (l : Limits) : AutoScalingGroup :=
  ⟨name, l.minSize, l.maxSize, l.desiredCapacity, w.instances⟩

@[simp] theorem limits_group (w : Place name) (l : Limits) : (w.group l).limits = l := rfl

/-- **The store with the given limits of the first group of the name.** -/
def store (w : Place name) (l : Limits) : Store :=
  ⟨w.before ++ w.group l :: w.after, w.securityGroups⟩

/-- Every store with a group of the name has a place for it. -/
theorem exists_store {s : Store} {g : AutoScalingGroup} (h : s.group? name = some g) :
    ∃ w : Place name, s = w.store g.limits := by
  obtain ⟨hname, before, after, hsplit, hfirst⟩ := List.find?_eq_some_iff_append.1 h
  obtain rfl : g.name = name := by simpa using hname
  refine ⟨⟨before, g.instances, after, s.securityGroups, fun x hx => by simpa using hfirst x hx⟩,
    ?_⟩
  rw [store, group, AutoScalingGroup.limits, ← hsplit]

/-- The store has the group. -/
theorem group?_store (w : Place name) (l : Limits) :
    (w.store l).group? name = some (w.group l) := by
  refine List.find?_eq_some_iff_append.2 ⟨by simp [group], w.before, w.after, rfl, fun g hg => ?_⟩
  simpa using w.first g hg

/-- The further groups of the name. -/
def further (w : Place name) : List AutoScalingGroup :=
  w.after.filter fun g => [name].contains g.name

/-- The group is the first that is read. -/
theorem describeGroups_store (w : Place name) (l : Limits) :
    (w.store l).describeGroups [name] = w.group l :: w.further := by
  have hbefore : w.before.filter (fun g => [name].contains g.name) = [] := by
    rw [List.filter_eq_nil_iff]
    exact fun g hg => by simpa using w.first g hg
  rw [Store.describeGroups, store, List.filter_append, hbefore, List.nil_append,
    List.filter_cons_of_pos (by simp [group]), further]

/-- Its limits are those that are set. -/
theorem updateGroup_store (w : Place name) (l l' : Limits) :
    (w.store l).updateGroup (l'.update name) =
      .ok (w.store l') := by
  have hresize (before : List AutoScalingGroup) (hfirst : ∀ g ∈ before, g.name ≠ name) :
      resizeIn (l'.update name)
        (before ++ w.group l :: w.after) = .ok (before ++ w.group l' :: w.after) := by
    induction before with
    | nil => exact if_pos rfl
    | cons g before ih =>
        have hg : g.name ≠ (l'.update name).groupName := hfirst g List.mem_cons_self
        rw [List.cons_append, resizeIn, if_neg hg,
          ih fun g hg => hfirst g (List.mem_cons_of_mem _ hg)]
        rfl
  rw [Store.updateGroup, store, hresize w.before w.first]
  rfl

end Place

/-! ### A provider that holds a group -/

namespace Cloud

variable {name : String}

/-- **A steady provider with these limits in this place.** -/
structure Holds (c : Cloud) (w : Place name) (l : Limits) : Prop where
  steady : c.Steady
  store : c.store = w.store l

namespace Holds

variable {c : Cloud} {w : Place name} {l : Limits}

theorem congr {c' : Cloud} (h : c.Holds w l) (hc : c.Untouched c') : c'.Holds w l :=
  ⟨h.steady.congr hc, hc.store.trans h.store⟩

/-- The group is read. -/
theorem describeGroups (h : c.Holds w l) :
    ∃ c', c.describeGroups [name] = (.ok (w.group l :: w.further), c') ∧ c'.Holds w l := by
  obtain ⟨c', heq, hs, hstore⟩ := h.steady.attempt_ok (.describeGroups [name])
    (fun s => .ok (s.describeGroups [name], s)) rfl
  rw [h.store, w.describeGroups_store] at heq
  exact ⟨c', heq, hs, hstore.trans h.store⟩

/-- Its limits are set. -/
theorem updateGroup (h : c.Holds w l) (l' : Limits) :
    ∃ c', c.updateGroup (l'.update name) = (.ok (), c') ∧
      c'.Holds w l' := by
  have hupdate : (c.store.updateGroup (l'.update name)).map
      (fun s => ((), s)) = .ok ((), w.store l') := by
    rw [h.store, w.updateGroup_store]
    rfl
  obtain ⟨c', heq, hs, hstore⟩ := h.steady.attempt_ok (.updateGroup (l'.update name))
    (fun s => (s.updateGroup (l'.update name)).map fun s => ((), s)) hupdate
  exact ⟨c', heq, hs, hstore⟩

/-- A client is opened. -/
theorem «open» (h : c.Holds w l) (endpoint : String) :
    ∃ lease c', c.open endpoint = (.ok lease, c') ∧ c'.Holds w l := by
  obtain ⟨lease, c', heq, hs, hstore⟩ := h.steady.open endpoint
  exact ⟨lease, c', heq, hs, hstore.trans h.store⟩

end Holds

end Cloud

end NodeSidecar
