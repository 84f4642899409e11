/-
**Every handler sees every event once.**

Whatever emissions do between each other's calls, each of them calls the handlers that were
registered before it began, one after another in the order of registration, and no others.  So a
handler sees an event once if it was registered before the emission began, and not at all if it was
registered later; and of two emissions of which the second began when the first had returned, it
sees the first one first.

Main definitions:

* `Delivery.call` — what a handler is called with;
* `FanOut` — **what a history of a bus does to its handlers**.

Main results:

* `Traffic.count_seen` — what a handler has seen, by what the emission has called;
* `Traffic.seen_of_returned` — **an emission that has returned is seen before those that begin
  later**;
* `Traffic.fanOut_of_after` — every history fans out.
-/

import Mathlib.Data.List.Nodup
import NodeSidecar.Proofs.Events.Emissions

set_option autoImplicit false

namespace NodeSidecar

/-- What a handler is called with. -/
def Delivery.call (d : Delivery) : Nat × Event := (d.handler, d.event)

namespace Traffic

variable {s t : Traffic} {ms ns : List BusStep} {n i : Nat} {event : Event}

/-- **What a handler has seen**, by what the emission has called. -/
theorem count_seen (s : Traffic) (i n : Nat) :
    (s.seen i).count n = ((s.deliveriesOf n).map Delivery.handler).count i := by
  simp only [seen, deliveriesOf, List.count_eq_countP, List.countP_map, List.countP_filter]
  exact List.countP_congr fun d _ => by simp [and_comm]

theorem mem_seen : n ∈ s.seen i ↔ ∃ d ∈ s.deliveries, d.handler = i ∧ d.emission = n := by
  simp [seen, and_assoc]

namespace Emits

variable {called waiting : List Nat} {closed : Bool}

/-- An emission has been seen by those that it has called. -/
theorem count_seen (h : Emits s n event called waiting closed) (i : Nat) :
    (s.seen i).count n = called.count i := by
  rw [Traffic.count_seen, h.deliveries, List.map_map]
  exact congrArg (List.count i) (List.map_id called)

/-- The calls of an emission. -/
theorem calls (h : Emits s n event called waiting closed) :
    (s.deliveriesOf n).map Delivery.call = called.map fun handler => (handler, event) := by
  rw [h.deliveries, List.map_map]
  rfl

end Emits

/-- The calls that are made after a moment come behind the others. -/
theorem seen_of_grown (h : t.deliveries <+: s.deliveries) (i : Nat) :
    ∃ later, s.seen i = t.seen i ++ later ∧
      ∀ n, (∀ d ∈ t.deliveries, d.emission < n) → n ∈ s.seen i → n ∈ later := by
  obtain ⟨more, hmore⟩ := h
  have hseen : s.seen i =
      t.seen i ++ (more.filter fun d => d.handler == i).map Delivery.emission := by
    rw [seen, ← hmore, List.filter_append, List.map_append, seen]
  refine ⟨_, hseen, fun n hn hmem => ?_⟩
  rw [hseen, List.mem_append] at hmem
  refine hmem.resolve_left fun hold => ?_
  obtain ⟨d, hd, -, rfl⟩ := mem_seen.1 hold
  exact Nat.lt_irrefl _ (hn d hd)

/-- **An emission that has returned is seen before those that begin later**, by every handler that
was registered before it began. -/
theorem seen_of_returned {a b d : List BusStep} {e e' : Event}
    (h : after ((a ++ .begin e :: b) ++ .begin e' :: d) = some s)
    (hclosed : .close (emissionsIn a) ∈ b) (hi : i < handlersIn a)
    (hseen : emissionsIn (a ++ .begin e :: b) ∈ s.seen i) :
    [emissionsIn a, emissionsIn (a ++ .begin e :: b)].Sublist (s.seen i) := by
  obtain ⟨t, hbefore, hlater⟩ := run_append.1 h
  obtain ⟨later, heq, hnew⟩ := seen_of_grown (deliveries_grow hlater) i
  have hfirst : emissionsIn a ∈ t.seen i := by
    rw [← List.count_pos_iff, (emits_of_returned hbefore hclosed).count_seen, List.count_pos_iff]
    exact List.mem_range.2 hi
  have hsecond : emissionsIn (a ++ .begin e :: b) ∈ later :=
    hnew _ (sound_of_after hbefore).deliveries hseen
  rw [heq]
  exact (List.singleton_sublist.2 hfirst).append (List.singleton_sublist.2 hsecond)

end Traffic

/-- **What a history of a bus does to its handlers.**  The emission that begins after the steps
`before` has the number `emissionsIn before`, and the handlers registered before it are those with
the numbers below `handlersIn before`. -/
structure FanOut (ms : List BusStep) (s : Traffic) : Prop where
  /-- An emission calls the handlers of the bus in the order of registration, and all of them
  before it returns. -/
  inRegistrationOrder : ∀ before event later t, ms = before ++ .begin event :: later →
    Traffic.after before = some t →
    (s.deliveriesOf (emissionsIn before)).map Delivery.call <+: t.bus.emit event ∧
    (.close (emissionsIn before) ∈ later →
      (s.deliveriesOf (emissionsIn before)).map Delivery.call = t.bus.emit event)
  /-- A handler registered before an emission began sees its event once, if the emission has
  returned, and once at most if it is under way. -/
  once : ∀ before event later, ms = before ++ .begin event :: later → ∀ i < handlersIn before,
    (s.seen i).count (emissionsIn before) ≤ 1 ∧
    (.close (emissionsIn before) ∈ later → (s.seen i).count (emissionsIn before) = 1)
  /-- A handler registered after it began does not see it. -/
  never : ∀ before event later, ms = before ++ .begin event :: later → ∀ i, handlersIn before ≤ i →
    emissionsIn before ∉ s.seen i
  /-- Handlers see nothing but emissions of the history. -/
  nothingElse : ∀ i, ∀ n ∈ s.seen i, n < emissionsIn ms
  /-- An emission that has returned is seen before one that begins later. -/
  afterReturn : ∀ a e b e' d, ms = (a ++ .begin e :: b) ++ .begin e' :: d →
    .close (emissionsIn a) ∈ b → ∀ i < handlersIn a,
      emissionsIn (a ++ .begin e :: b) ∈ s.seen i →
      [emissionsIn a, emissionsIn (a ++ .begin e :: b)].Sublist (s.seen i)
  /-- An emission that has not returned can make its next step. -/
  goesOn : ∀ before event later, ms = before ++ .begin event :: later →
    .close (emissionsIn before) ∉ later →
    (s.step (.call (emissionsIn before))).isSome ∨ (s.step (.close (emissionsIn before))).isSome

/-- **Every history fans out.** -/
theorem Traffic.fanOut_of_after {ms : List BusStep} {s : Traffic} (h : after ms = some s) :
    FanOut ms s where
  inRegistrationOrder before event later t hms ht := by
    subst hms
    obtain ⟨called, waiting, closed, hemits, hall, -⟩ := exists_emits h
    rw [EventBus.emit, (sound_of_after ht).handlers]
    refine ⟨?_, fun hreturned => (emits_of_returned h hreturned).calls⟩
    rw [hemits.calls, ← hall, List.map_append]
    exact List.prefix_append _ _
  once before event later hms i hi := by
    subst hms
    have hone : (List.range (handlersIn before)).count i = 1 :=
      List.count_eq_one_of_mem List.nodup_range (List.mem_range.2 hi)
    obtain ⟨called, waiting, closed, hemits, hall, -⟩ := exists_emits h
    refine ⟨?_, fun hreturned => ?_⟩
    · rw [← hall, List.count_append] at hone
      rw [hemits.count_seen]
      omega
    · rw [(emits_of_returned h hreturned).count_seen, hone]
  never before event later hms i hi := by
    subst hms
    obtain ⟨called, waiting, closed, hemits, hall, -⟩ := exists_emits h
    have hnot : i ∉ called := by
      intro hcalled
      have hmem : i ∈ called ++ waiting := List.mem_append_left _ hcalled
      rw [hall, List.mem_range] at hmem
      omega
    rw [← List.count_eq_zero, hemits.count_seen]
    exact List.count_eq_zero.2 hnot
  nothingElse i n hn := by
    obtain ⟨d, hd, -, rfl⟩ := mem_seen.1 hn
    exact (sound_of_after h).deliveries d hd
  afterReturn a e b e' d hms hclosed i hi hseen := by
    subst hms
    exact seen_of_returned h hclosed hi hseen
  goesOn before event later hms hclosed := by
    subst hms
    obtain ⟨called, waiting, closed, hemits, -, hclosed'⟩ := exists_emits h
    obtain rfl : closed = false := by simpa using mt hclosed'.1 hclosed
    by_cases hwaiting : waiting = []
    · exact Or.inr (hemits.exists_step.2 hwaiting)
    · exact Or.inl (hemits.exists_step.1 hwaiting)

end NodeSidecar
