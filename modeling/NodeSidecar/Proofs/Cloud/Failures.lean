/-
**Requests to a provider that is told to fail.**

A provider may be told to fail any of the coming requests: the next one, and each further one by a
script.  What it was told is read off as one schedule, which gives the failure of each coming
request by its number.  A request uses up the first entry of the schedule: it fails with that entry
and changes nothing, or, if there is none, it does as the store does.

Main definitions:

* `Faults.failure` — the schedule of failures;
* `Cloud.under` — a provider that is told to fail otherwise;
* `Cloud.Proceeds` — a provider after one request.

Main results:

* `Cloud.takeFailure_takeScript` — what a request finds of the schedule, and what it leaves of it;
* `Cloud.attempt_of_failure`, `Cloud.attempt_of_settled`, `Cloud.attempt_of_refused` — **the three
  ways in which a request ends**.
-/

import NodeSidecar.Cloud.Client

set_option autoImplicit false

namespace NodeSidecar

/-- **The failure asked for of the `k`-th of the coming requests**, counted from zero.  An entry of
the script takes the place of a failure that was asked for before. -/
def Faults.failure (f : Faults) (k : Nat) : Option CloudError :=
  match f.script[k]? with
  | some (some e) => some e
  | _ => if k = 0 then f.nextRequest else none

namespace Cloud

/-- The provider with other failures asked for. -/
def under (c : Cloud) (f : Faults) : Cloud := { c with faults := f }

/-- **A provider after one request**: it is recorded with its answer, and the schedule of failures
is one request further. -/
structure Proceeds (c c' : Cloud) (r : Request) (answer : Option CloudError) : Prop where
  requests : c'.requests = c.requests ++ [(r, answer)]
  failures : ∀ k, c'.faults.failure k = c.faults.failure (k + 1)

variable {c : Cloud}

theorem Proceeds.failures_eq {c' : Cloud} {r : Request} {answer : Option CloudError}
    (h : c.Proceeds c' r answer) : c'.faults.failure = fun k => c.faults.failure (k + 1) :=
  funext h.failures

/-- A request takes the first failure of the schedule and leaves the others. -/
theorem takeFailure_takeScript (c : Cloud) :
    ∃ c', c.takeScript.takeFailure = (c.faults.failure 0, c') ∧ c'.store = c.store ∧
      c'.requests = c.requests ∧ ∀ k, c'.faults.failure k = c.faults.failure (k + 1) := by
  -- an entry of the script that asks for no failure leaves the one that was asked for before
  refine ⟨c.takeScript.takeFailure.2, ?_, ?_⟩
  · rw [takeScript, Faults.failure]
    cases hs : c.faults.script with
    | nil => rfl
    | cons failure rest => cases failure <;> rfl
  · rw [takeScript]
    cases hs : c.faults.script with
    | nil => exact ⟨rfl, rfl, fun k => by simp [Faults.failure, takeFailure, hs]⟩
    | cons failure rest =>
        cases failure with
        | none => exact ⟨rfl, rfl, fun k => by simp [Faults.failure, takeFailure, hs]⟩
        | some e => exact ⟨rfl, rfl, fun k => by simp [Faults.failure, takeFailure, hs]⟩

section Attempts

variable {α : Type} (r : Request) (act : Store → Except CloudError (α × Store))

/-- A request that is to fail fails, and changes nothing. -/
theorem attempt_of_failure {e : CloudError} (h : c.faults.failure 0 = some e) :
    ∃ c', c.attempt r act = (.error e, c') ∧ c.Proceeds c' r (some e) ∧ c'.store = c.store := by
  obtain ⟨c', htake, hstore, hrequests, hfailures⟩ := c.takeFailure_takeScript
  refine ⟨c'.record r (some e), ?_, ⟨?_, hfailures⟩, hstore⟩
  · rw [attempt, htake, h]
  · rw [record, hrequests]

/-- A request that is not to fail is settled if the store settles it. -/
theorem attempt_of_settled {a : α} {s : Store} (h : c.faults.failure 0 = none)
    (ha : act c.store = .ok (a, s)) :
    ∃ c', c.attempt r act = (.ok a, c') ∧ c.Proceeds c' r none ∧ c'.store = s := by
  obtain ⟨c', htake, hstore, hrequests, hfailures⟩ := c.takeFailure_takeScript
  refine ⟨{ c' with store := s }.record r none, ?_, ⟨?_, hfailures⟩, rfl⟩
  · rw [attempt, htake, h]
    simp only [hstore, ha]
  · rw [record, hrequests]

/-- It is refused, and changes nothing, if the store refuses it. -/
theorem attempt_of_refused {e : CloudError} (h : c.faults.failure 0 = none)
    (ha : act c.store = .error e) :
    ∃ c', c.attempt r act = (.error e, c') ∧ c.Proceeds c' r (some e) ∧ c'.store = c.store := by
  obtain ⟨c', htake, hstore, hrequests, hfailures⟩ := c.takeFailure_takeScript
  refine ⟨c'.record r (some e), ?_, ⟨?_, hfailures⟩, hstore⟩
  · rw [attempt, htake, h]
    simp only [hstore, ha]
  · rw [record, hrequests]

end Attempts

end Cloud

end NodeSidecar
