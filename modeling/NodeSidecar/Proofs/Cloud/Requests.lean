/-
**Requests to a provider that does not fail.**

A provider of which no failure is asked answers every request as its store does.  A request about a
security group means the first group of its name, so all that it can change in the store are the
permissions of that group; the groups around it are its surroundings, and stay as they are.

Main definitions:

* `Cloud.Steady` — no failure of requests or of openings is asked for;
* `Surroundings`, `Surroundings.store` — a store around the permissions of the first security group
  of a name;
* `Cloud.Serves` — a steady provider with these permissions in these surroundings.

Main results:

* `Surroundings.exists_store` — every store with a group of the name is of this form;
* `Cloud.Serves.changeIngress_ok`, `Cloud.Serves.changeIngress_error` — a change of permissions;
* `Cloud.Serves.open`, `Cloud.Serves.finish` — a client's life changes nothing else.
-/

import NodeSidecar.Proofs.Cloud.Leases
import NodeSidecar.Proofs.Cloud.Permissions

set_option autoImplicit false

namespace NodeSidecar

/-! ### Steady providers -/

namespace Cloud

/-- **No failure of requests or of openings is asked for**; releases may fail. -/
structure Steady (c : Cloud) : Prop where
  nextRequest : c.faults.nextRequest = none
  nextOpen : c.faults.nextOpen = none
  script : ∀ failure ∈ c.faults.script, failure = none

variable {c : Cloud}

/-- Only the failures asked for matter. -/
theorem Steady.congr {c' : Cloud} (h : c.Steady) (hc : c.Untouched c') : c'.Steady := by
  refine ⟨?_, ?_, ?_⟩
  · rw [hc.faults]
    exact h.nextRequest
  · rw [hc.faults]
    exact h.nextOpen
  · rw [hc.faults]
    exact h.script

/-- The script of a steady provider asks for nothing. -/
theorem Steady.takeScript (h : c.Steady) : c.takeScript.Steady ∧ c.takeScript.store = c.store := by
  unfold Cloud.takeScript
  cases hs : c.faults.script with
  | nil => exact ⟨h, rfl⟩
  | cons failure rest =>
      obtain rfl : failure = none := h.script failure (by simp [hs])
      refine ⟨⟨h.nextRequest, h.nextOpen, fun failure hf => h.script failure ?_⟩, rfl⟩
      rw [hs]
      exact List.mem_cons_of_mem _ hf

/-- The provider after its script and the failure asked for were looked up. -/
theorem Steady.takeFailure (h : c.Steady) :
    ∃ c', c.takeScript.takeFailure = (none, c') ∧ c'.Steady ∧ c'.store = c.store := by
  obtain ⟨hs, hstore⟩ := h.takeScript
  refine ⟨c.takeScript.takeFailure.2, ?_, ⟨rfl, hs.nextOpen, hs.script⟩, hstore⟩
  rw [Cloud.takeFailure, hs.nextRequest]

variable {α : Type}

/-- A request that the store settles is settled. -/
theorem Steady.attempt_ok (h : c.Steady) (r : Request)
    (act : Store → Except CloudError (α × Store)) {a : α} {s : Store}
    (ha : act c.store = .ok (a, s)) :
    ∃ c', c.attempt r act = (.ok a, c') ∧ c'.Steady ∧ c'.store = s := by
  obtain ⟨c', htake, hs, hstore⟩ := h.takeFailure
  refine ⟨{ c' with store := s }.record r none, ?_, ⟨hs.nextRequest, hs.nextOpen, hs.script⟩, rfl⟩
  rw [attempt, htake]
  simp only [hstore, ha]

/-- A request that the store refuses is refused, and changes nothing. -/
theorem Steady.attempt_error (h : c.Steady) (r : Request)
    (act : Store → Except CloudError (α × Store)) {e : CloudError}
    (ha : act c.store = .error e) :
    ∃ c', c.attempt r act = (.error e, c') ∧ c'.Steady ∧ c'.store = c.store := by
  obtain ⟨c', htake, hs, hstore⟩ := h.takeFailure
  refine ⟨c'.record r (some e), ?_, ⟨hs.nextRequest, hs.nextOpen, hs.script⟩, hstore⟩
  rw [attempt, htake]
  simp only [hstore, ha]

/-- A client of a steady provider can be opened. -/
theorem Steady.«open» (h : c.Steady) (endpoint : String) :
    ∃ lease c', c.open endpoint = (.ok lease, c') ∧ c'.Steady ∧ c'.store = c.store := by
  refine ⟨{ endpoint }, (c.open endpoint).2, ?_, ?_, ?_⟩
  · rw [Cloud.open, h.nextOpen]
  · rw [Cloud.open, h.nextOpen]
    exact ⟨h.nextRequest, h.nextOpen, h.script⟩
  · rw [Cloud.open, h.nextOpen]

end Cloud

/-- A change of permissions in either direction, as a request to the store. -/
def IngressChange.request (change : IngressChange) (group : String) (r : IngressRule)
    (s : Store) : Except CloudError Store :=
  match change with
  | .authorize => s.authorize group r
  | .revoke => s.revoke group r

theorem Cloud.changeIngress_eq (c : Cloud) (change : IngressChange) (group : String)
    (r : IngressRule) :
    c.changeIngress change group r = c.attempt (.changeIngress change group r) fun s =>
      (change.request group r s).map fun s => ((), s) := by
  cases change <;> rfl

/-- Without the group there are no permissions to change. -/
theorem changePermissions_without_group {name : String}
    (change : List IngressRule → Except CloudError (List IngressRule)) {gs : List SecurityGroup}
    (h : gs.find? (fun g => g.name == name) = none) :
    changePermissions name change gs = .error (.groupNotFound name) := by
  induction gs with
  | nil => rfl
  | cons g gs ih =>
      rw [List.find?_cons] at h
      split at h
      · cases h
      · next hname =>
        rw [changePermissions, if_neg (by simpa using hname), ih h]
        rfl

/-! ### The surroundings of a security group -/

/-- What a store holds around the first security group of a name. -/
structure Surroundings (name : String) where
  groups : List AutoScalingGroup
  before : List SecurityGroup
  after : List SecurityGroup
  first : ∀ g ∈ before, g.name ≠ name

namespace Surroundings

variable {name : String}

/-- **The store with the given permissions in the first security group of the name.** -/
def store (w : Surroundings name) (ps : List IngressRule) : Store :=
  ⟨w.groups, w.before ++ ⟨name, ps⟩ :: w.after⟩

/-- Every store with a group of the name has surroundings of it. -/
theorem exists_store {s : Store} {g : SecurityGroup} (h : s.securityGroup? name = some g) :
    ∃ w : Surroundings name, s = w.store g.permissions := by
  obtain ⟨hname, before, after, hsplit, hfirst⟩ := List.find?_eq_some_iff_append.1 h
  obtain rfl : g.name = name := by simpa using hname
  refine ⟨⟨s.groups, before, after, fun x hx => by simpa using hfirst x hx⟩, ?_⟩
  rw [store, ← hsplit]

/-- The store has the group. -/
@[simp] theorem securityGroup?_store (w : Surroundings name) (ps : List IngressRule) :
    (w.store ps).securityGroup? name = some ⟨name, ps⟩ := by
  refine List.find?_eq_some_iff_append.2 ⟨by simp, w.before, w.after, rfl, fun g hg => ?_⟩
  simpa using w.first g hg

/-- A change of the group's permissions leaves the surroundings alone. -/
theorem changePermissions_store (w : Surroundings name)
    (change : List IngressRule → Except CloudError (List IngressRule)) (ps : List IngressRule) :
    changePermissions name change (w.store ps).securityGroups =
      (change ps).map fun ps' => (w.store ps').securityGroups := by
  obtain ⟨groups, before, after, first⟩ := w
  simp only [store]
  induction before with
  | nil => rw [List.nil_append, changePermissions, if_pos rfl]; rfl
  | cons g before ih =>
      have hg : g.name ≠ name := first g List.mem_cons_self
      have hbefore : ∀ g ∈ before, g.name ≠ name := fun g hg => first g (List.mem_cons_of_mem _ hg)
      rw [List.cons_append, changePermissions, if_neg hg, ih hbefore]
      cases change ps <;> rfl

/-- A change in either direction settles or refuses the change of the group's permissions. -/
theorem request_store (w : Surroundings name) (change : IngressChange) (r : IngressRule)
    (ps : List IngressRule) :
    change.request name r (w.store ps) = (change.applyTo r ps).map w.store := by
  cases change with
  | authorize =>
      rw [IngressChange.request, Store.authorize, changePermissions_store]
      cases h : authorizeIn r ps <;> simp only [IngressChange.applyTo, h] <;> rfl
  | revoke =>
      rw [IngressChange.request, Store.revoke, changePermissions_store]
      cases h : revokeIn r ps <;> simp only [IngressChange.applyTo, h] <;> rfl

end Surroundings

/-! ### A provider that serves a group -/

namespace Cloud

variable {name : String}

/-- **A steady provider with these permissions in these surroundings.** -/
structure Serves (c : Cloud) (w : Surroundings name) (ps : List IngressRule) : Prop where
  steady : c.Steady
  store : c.store = w.store ps

namespace Serves

variable {c : Cloud} {w : Surroundings name} {ps ps' : List IngressRule}
  {change : IngressChange} {r : IngressRule}

/-- A change that the permissions allow is settled. -/
theorem changeIngress_ok (h : c.Serves w ps) (ha : change.applyTo r ps = .ok ps') :
    ∃ c', c.changeIngress change name r = (.ok (), c') ∧ c'.Serves w ps' := by
  have hstore : (change.request name r c.store).map (fun s => ((), s)) =
      .ok ((), w.store ps') := by
    rw [h.store, w.request_store, ha]
    rfl
  obtain ⟨c', heq, hs, hst⟩ := h.steady.attempt_ok (.changeIngress change name r)
    (fun s => (change.request name r s).map fun s => ((), s)) hstore
  exact ⟨c', (c.changeIngress_eq change name r).trans heq, hs, hst⟩

/-- A change that they do not allow is refused. -/
theorem changeIngress_error (h : c.Serves w ps) {e : CloudError}
    (ha : change.applyTo r ps = .error e) :
    ∃ c', c.changeIngress change name r = (.error e, c') ∧ c'.Serves w ps := by
  have hstore : (change.request name r c.store).map (fun s => ((), s)) = .error e := by
    rw [h.store, w.request_store, ha]
    rfl
  obtain ⟨c', heq, hs, hst⟩ := h.steady.attempt_error (.changeIngress change name r)
    (fun s => (change.request name r s).map fun s => ((), s)) hstore
  exact ⟨c', (c.changeIngress_eq change name r).trans heq, hs, hst.trans h.store⟩

/-- The group is described with its permissions. -/
theorem describeSecurityGroups (h : c.Serves w ps) :
    ∃ c', c.describeSecurityGroups [name] = (.ok [⟨name, ps⟩], c') ∧ c'.Serves w ps := by
  have hstore : (c.store.describeSecurityGroups [name]).map (fun gs => (gs, c.store)) =
      .ok ([⟨name, ps⟩], w.store ps) := by
    rw [h.store, Store.describeSecurityGroups, List.mapM_cons, List.mapM_nil,
      Surroundings.securityGroup?_store]
    rfl
  obtain ⟨c', heq, hs, hst⟩ := h.steady.attempt_ok (.describeSecurityGroups [name])
    (fun s => (s.describeSecurityGroups [name]).map fun gs => (gs, s)) hstore
  exact ⟨c', heq, hs, hst⟩

/-! ### The life of a client -/

/-- Only the store and the failures asked for matter. -/
theorem congr {c' : Cloud} (h : c.Serves w ps) (hc : c.Untouched c') : c'.Serves w ps :=
  ⟨h.steady.congr hc, hc.store.trans h.store⟩

theorem report (h : c.Serves w ps) (line : LogLine) : (c.report line).Serves w ps :=
  h.congr (c.untouched_report line)

theorem foldl_report (h : c.Serves w ps) (lines : List LogLine) :
    (lines.foldl Cloud.report c).Serves w ps :=
  h.congr (c.untouched_foldl_report lines)

/-- A client can be opened. -/
theorem «open» (h : c.Serves w ps) (endpoint : String) :
    ∃ lease c', c.open endpoint = (.ok lease, c') ∧ c'.Serves w ps := by
  obtain ⟨lease, c', hopen, hs, hstore⟩ := h.steady.open endpoint
  exact ⟨lease, c', hopen, hs, hstore.trans h.store⟩

/-- A release changes nothing of the store, even if it fails. -/
theorem finish (h : c.Serves w ps) (l : Lease) (succeeded : Bool) :
    (c.finish l succeeded).Serves w ps :=
  h.congr (c.untouched_finish l succeeded)

end Serves

end Cloud

end NodeSidecar
