/-
**Emissions that are under way at the same time.**

An emission calls the handlers of its bus one after another, and every call is a step of its own:
between two calls of one emission others may begin, call handlers and return.  A handler is
registered only when no emission is under way.  A history of a bus is a list of such steps, from the
bus without handlers on.

Handlers are told apart by the number of handlers registered before them, so that one that is
registered twice counts as two, and emissions by the number of emissions begun before them.

Main definitions:

* `BusStep` — a step of a history;
* `handlersIn`, `emissionsIn` — how many handlers a history registers and how many emissions it
  begins;
* `Traffic`, `Traffic.step`, `Traffic.after` — a bus with its emissions, a step of it, and what a
  history leads to;
* `Traffic.deliveriesOf`, `Traffic.seen` — the calls that an emission has made, and the emissions
  that a handler has seen, in order;
* `Traffic.Emits` — how far an emission is.

Main results:

* `Traffic.stepped` — **what a step does**;
* `Traffic.sound_of_after` — handlers and emissions are numbered as the history tells;
* `Traffic.Emits.run` — **an emission calls what was registered before it**, whatever happens
  between its steps;
* `Traffic.exists_emits`, `Traffic.emits_of_returned` — how far an emission of a history is, and one
  that has returned.
-/

import Mathlib.Data.List.Induction
import NodeSidecar.Event

set_option autoImplicit false

namespace NodeSidecar

/-- A step of the history of a bus. -/
inductive BusStep where
  /-- A handler is registered. -/
  | register
  /-- An emission begins, and keeps the handlers from being changed until it returns. -/
  | begin (event : Event)
  /-- An emission calls its next handler. -/
  | call (emission : Nat)
  /-- An emission that has called all its handlers returns. -/
  | close (emission : Nat)
  deriving DecidableEq, Repr

/-- Whether a step registers a handler. -/
@[simp] def BusStep.registers : BusStep → Bool
  | .register => true
  | _ => false

/-- Whether a step begins an emission. -/
@[simp] def BusStep.begins : BusStep → Bool
  | .begin _ => true
  | _ => false

/-- The number of handlers that a history registers. -/
def handlersIn (ms : List BusStep) : Nat := ms.countP BusStep.registers

/-- The number of emissions that a history begins. -/
def emissionsIn (ms : List BusStep) : Nat := ms.countP BusStep.begins

@[simp] theorem handlersIn_append (ms ns : List BusStep) :
    handlersIn (ms ++ ns) = handlersIn ms + handlersIn ns := List.countP_append

@[simp] theorem emissionsIn_append (ms ns : List BusStep) :
    emissionsIn (ms ++ ns) = emissionsIn ms + emissionsIn ns := List.countP_append

@[simp] theorem handlersIn_singleton (m : BusStep) :
    handlersIn [m] = if m.registers then 1 else 0 := by
  rw [handlersIn, List.countP_singleton]

@[simp] theorem emissionsIn_singleton (m : BusStep) :
    emissionsIn [m] = if m.begins then 1 else 0 := by
  rw [emissionsIn, List.countP_singleton]

/-- An emission among others, and whether it has returned. -/
structure Emitting where
  emission : Emission Nat
  closed : Bool
  deriving Repr

/-- The call of a handler by an emission. -/
structure Delivery where
  handler : Nat
  emission : Nat
  event : Event
  deriving DecidableEq, Repr

/-- A bus, the emissions on it in the order in which they began, and the calls made, in order. -/
structure Traffic where
  bus : EventBus Nat := .empty
  emissions : List Emitting := []
  deliveries : List Delivery := []

namespace Traffic

/-- The emission of a number, while it is under way. -/
def underWay? (s : Traffic) (n : Nat) : Option (Emission Nat) :=
  match s.emissions[n]? with
  | some ⟨e, false⟩ => some e
  | _ => none

/-- The state after a step, if the step can be made. -/
def step (s : Traffic) : BusStep → Option Traffic
  | .register =>
    if s.emissions.all Emitting.closed then
      some { s with bus := s.bus.register s.bus.handlerCount }
    else none
  | .begin event => some { s with emissions := s.emissions ++ [⟨s.bus.begin event, false⟩] }
  | .call n => do
    let e ← s.underWay? n
    let (handler, rest) ← e.next?
    return { s with
      emissions := s.emissions.set n ⟨rest, false⟩
      deliveries := s.deliveries ++ [⟨handler, n, e.event⟩] }
  | .close n => do
    let e ← s.underWay? n
    if e.next?.isSome then none
    else return { s with emissions := s.emissions.set n ⟨e, true⟩ }

/-- The state after some steps, if they can be made one after another. -/
def run (s : Traffic) (ms : List BusStep) : Option Traffic := ms.foldlM step s

/-- The state after a history. -/
def after (ms : List BusStep) : Option Traffic := run {} ms

/-- The calls that an emission has made, in order. -/
def deliveriesOf (s : Traffic) (n : Nat) : List Delivery :=
  s.deliveries.filter fun d => d.emission == n

/-- **The emissions that a handler has seen**, in order. -/
def seen (s : Traffic) (handler : Nat) : List Nat :=
  (s.deliveries.filter fun d => d.handler == handler).map Delivery.emission

variable {s s' s'' : Traffic} {m : BusStep} {ms ns : List BusStep}

/-! ### Steps -/

theorem underWay?_eq_some {n : Nat} {e : Emission Nat} :
    s.underWay? n = some e ↔ s.emissions[n]? = some ⟨e, false⟩ := by
  unfold underWay?
  split
  · next h => simp [h]
  · next h =>
    refine iff_of_false (by simp) fun he => h e he

/-- **What a step does**, by its kind. -/
inductive Stepped (s : Traffic) : BusStep → Traffic → Prop
  /-- No emission is under way. -/
  | registered (free : ∀ e ∈ s.emissions, e.closed = true) :
      Stepped s .register { s with bus := s.bus.register s.bus.handlerCount }
  | begun (event : Event) :
      Stepped s (.begin event) { s with emissions := s.emissions ++ [⟨s.bus.begin event, false⟩] }
  | called {n handler : Nat} {event : Event} {rest : List Nat}
      (going : s.emissions[n]? = some ⟨⟨event, handler :: rest⟩, false⟩) :
      Stepped s (.call n) { s with
        emissions := s.emissions.set n ⟨⟨event, rest⟩, false⟩
        deliveries := s.deliveries ++ [⟨handler, n, event⟩] }
  | closed {n : Nat} {event : Event} (going : s.emissions[n]? = some ⟨⟨event, []⟩, false⟩) :
      Stepped s (.close n) { s with emissions := s.emissions.set n ⟨⟨event, []⟩, true⟩ }

theorem stepped (h : s.step m = some s') : Stepped s m s' := by
  cases m with
  | register =>
      rw [step] at h
      split at h
      · next hfree =>
        rw [← Option.some.inj h]
        exact .registered (by simpa using hfree)
      · cases h
  | begin event =>
      rw [← Option.some.inj h]
      exact .begun event
  | call n =>
      obtain ⟨⟨event, waiting⟩, hgoing, h⟩ := Option.bind_eq_some_iff.1 h
      cases waiting with
      | nil => cases h
      | cons handler rest =>
          rw [← Option.some.inj h]
          exact .called (underWay?_eq_some.1 hgoing)
  | close n =>
      obtain ⟨⟨event, waiting⟩, hgoing, h⟩ := Option.bind_eq_some_iff.1 h
      cases waiting with
      | nil =>
          rw [← Option.some.inj h]
          exact .closed (underWay?_eq_some.1 hgoing)
      | cons handler rest => cases h

/-! ### Histories -/

theorem run_append :
    s.run (ms ++ ns) = some s'' ↔ ∃ s', s.run ms = some s' ∧ s'.run ns = some s'' := by
  rw [run, List.foldlM_append]
  exact Option.bind_eq_some_iff

theorem run_concat :
    s.run (ms ++ [m]) = some s'' ↔ ∃ s', s.run ms = some s' ∧ s'.step m = some s'' := by
  rw [run_append]
  simp [run]

theorem run_cons : s.run (m :: ms) = some s'' ↔ ∃ s', s.step m = some s' ∧ s'.run ms = some s'' :=
  Option.bind_eq_some_iff

/-- Handlers and emissions are numbered as a history tells. -/
structure Sound (ms : List BusStep) (s : Traffic) : Prop where
  handlers : s.bus.handlers = List.range (handlersIn ms)
  emissions : s.emissions.length = emissionsIn ms
  deliveries : ∀ d ∈ s.deliveries, d.emission < emissionsIn ms

theorem Sound.step (h : Sound ms s) (hstep : s.step m = some s') : Sound (ms ++ [m]) s' := by
  cases stepped hstep with
  | registered _ =>
      refine ⟨?_, by simpa using h.emissions, by simpa using h.deliveries⟩
      simp [EventBus.register, EventBus.handlerCount, h.handlers, List.range_succ]
  | begun event =>
      refine ⟨by simpa using h.handlers, by simpa using h.emissions, fun d hd => ?_⟩
      have hlt := h.deliveries d hd
      simp only [emissionsIn_append, emissionsIn_singleton, BusStep.begins, if_true]
      omega
  | @called n handler event rest hgoing =>
      refine ⟨by simpa using h.handlers, by simpa using h.emissions, fun d hd => ?_⟩
      simp only [emissionsIn_append, emissionsIn_singleton, BusStep.begins, Bool.false_eq_true,
        if_false, Nat.add_zero]
      rcases List.mem_append.1 hd with hd | hd
      · exact h.deliveries d hd
      · rw [List.mem_singleton.1 hd, ← h.emissions]
        exact (List.getElem?_eq_some_iff.1 hgoing).1
  | closed _ => exact ⟨by simpa using h.handlers, by simpa using h.emissions,
      by simpa using h.deliveries⟩

theorem sound_of_after (h : after ms = some s) : Sound ms s := by
  induction ms using List.reverseRecOn generalizing s with
  | nil =>
      obtain rfl := Option.some.inj h
      exact ⟨rfl, rfl, by simp⟩
  | append_singleton ms m ih =>
      obtain ⟨s', hms, hstep⟩ := run_concat.1 h
      exact (ih hms).step hstep

/-- Calls that were made stay made. -/
theorem deliveries_grow (h : s.run ms = some s') : s.deliveries <+: s'.deliveries := by
  induction ms using List.reverseRecOn generalizing s' with
  | nil =>
      obtain rfl := Option.some.inj h
      exact List.prefix_refl _
  | append_singleton ms m ih =>
      obtain ⟨t, hms, hstep⟩ := run_concat.1 h
      refine (ih hms).trans ?_
      cases stepped hstep with
      | registered _ => exact List.prefix_refl _
      | begun event => exact List.prefix_refl _
      | called _ => exact List.prefix_append _ _
      | closed _ => exact List.prefix_refl _

/-! ### One emission -/

/-- **How far an emission is**: it has called some handlers, it is to call others, and it may have
returned. -/
structure Emits (s : Traffic) (n : Nat) (event : Event) (called waiting : List Nat)
    (closed : Bool) : Prop where
  emission : s.emissions[n]? = some ⟨⟨event, waiting⟩, closed⟩
  deliveries : s.deliveriesOf n = called.map fun handler => ⟨handler, n, event⟩
  done : closed = true → waiting = []

namespace Emits

variable {n : Nat} {event : Event} {called waiting : List Nat} {closed : Bool}

/-- An emission that begins is to call the handlers that there are. -/
theorem begin (h : Sound ms s) (event : Event) :
    Emits { s with emissions := s.emissions ++ [⟨s.bus.begin event, false⟩] } (emissionsIn ms) event
      [] (List.range (handlersIn ms)) false where
  emission := by
    rw [← h.emissions, List.getElem?_concat_length, EventBus.begin, h.handlers]
  deliveries := by
    refine List.filter_eq_nil_iff.2 fun d hd => ?_
    have hlt := h.deliveries d hd
    simp only [beq_iff_eq]
    omega
  done h := absurd h (by simp)

/-- **One step**: an emission that is under way calls its next handler or returns, and the steps of
others leave it as it is. -/
theorem step (h : Emits s n event called waiting closed) (hstep : s.step m = some s') :
    ∃ called' waiting' closed', Emits s' n event called' waiting' closed' ∧
      called' ++ waiting' = called ++ waiting ∧
      (closed' = true ↔ closed = true ∨ m = .close n) := by
  have hlt := (List.getElem?_eq_some_iff.1 h.emission).1
  cases stepped hstep with
  | registered _ =>
      exact ⟨called, waiting, closed, ⟨h.emission, h.deliveries, h.done⟩, rfl, by simp⟩
  | begun event' =>
      refine ⟨called, waiting, closed, ⟨?_, h.deliveries, h.done⟩, rfl, by simp⟩
      rw [List.getElem?_append_left hlt]
      exact h.emission
  | @called n' handler event' rest hgoing =>
      -- its own call, or that of another emission
      by_cases hn : n' = n
      · subst hn
        obtain ⟨⟨rfl, rfl⟩, rfl⟩ :
            (event = event' ∧ waiting = handler :: rest) ∧ closed = false := by
          simpa [h.emission] using hgoing
        refine ⟨called ++ [handler], rest, false, ⟨?_, ?_, by simp⟩, by simp, by simp⟩
        · rw [List.getElem?_set_self hlt]
        · rw [deliveriesOf, List.filter_append, List.filter_cons_of_pos (by simp), List.filter_nil,
            List.map_append]
          exact congrArg (· ++ _) h.deliveries
      · refine ⟨called, waiting, closed, ⟨?_, ?_, h.done⟩, rfl, by simp⟩
        · rw [List.getElem?_set_ne hn]
          exact h.emission
        · rw [deliveriesOf, List.filter_append, List.filter_cons_of_neg (by simpa using hn),
            List.filter_nil, List.append_nil]
          exact h.deliveries
  | @closed n' event' hgoing =>
      by_cases hn : n' = n
      · subst hn
        obtain ⟨⟨rfl, rfl⟩, rfl⟩ : (event = event' ∧ waiting = []) ∧ closed = false := by
          simpa [h.emission] using hgoing
        refine ⟨called, [], true, ⟨?_, h.deliveries, fun _ => rfl⟩, rfl, by simp⟩
        rw [List.getElem?_set_self hlt]
      · refine ⟨called, waiting, closed, ⟨?_, h.deliveries, h.done⟩, rfl, by simp [hn]⟩
        rw [List.getElem?_set_ne hn]
        exact h.emission

/-- **Any number of steps**, of this emission and of others. -/
theorem run (h : Emits s n event called waiting closed) (hrun : s.run ms = some s') :
    ∃ called' waiting' closed', Emits s' n event called' waiting' closed' ∧
      called' ++ waiting' = called ++ waiting ∧
      (closed' = true ↔ closed = true ∨ .close n ∈ ms) := by
  induction ms using List.reverseRecOn generalizing s' with
  | nil =>
      obtain rfl := Option.some.inj hrun
      exact ⟨called, waiting, closed, h, rfl, by simp⟩
  | append_singleton ms m ih =>
      obtain ⟨t, hms, hstep⟩ := run_concat.1 hrun
      obtain ⟨called₁, waiting₁, closed₁, h₁, hall₁, hclosed₁⟩ := ih hms
      obtain ⟨called₂, waiting₂, closed₂, h₂, hall₂, hclosed₂⟩ := h₁.step hstep
      refine ⟨called₂, waiting₂, closed₂, h₂, hall₂.trans hall₁, ?_⟩
      rw [hclosed₂, hclosed₁, List.mem_append, List.mem_singleton, or_assoc, eq_comm (a := m)]

/-- An emission that is under way can make its next step. -/
theorem exists_step (h : Emits s n event called waiting false) :
    (waiting ≠ [] → (s.step (.call n)).isSome) ∧ (waiting = [] → (s.step (.close n)).isSome) := by
  have hgoing : s.underWay? n = some ⟨event, waiting⟩ := underWay?_eq_some.2 h.emission
  constructor
  · intro hne
    obtain ⟨handler, rest, rfl⟩ := List.exists_cons_of_ne_nil hne
    simp [Traffic.step, hgoing, Emission.next?]
  · rintro rfl
    simp [Traffic.step, hgoing, Emission.next?]

end Emits

/-- **How far an emission of a history is**: what it has called and is to call are the handlers
registered before it began, in the order of registration. -/
theorem exists_emits {event : Event} (h : after (ms ++ .begin event :: ns) = some s) :
    ∃ called waiting closed, Emits s (emissionsIn ms) event called waiting closed ∧
      called ++ waiting = List.range (handlersIn ms) ∧
      (closed = true ↔ .close (emissionsIn ms) ∈ ns) := by
  obtain ⟨t, hms, hns⟩ := run_append.1 h
  obtain ⟨t', hbegin, hns⟩ := run_cons.1 hns
  obtain rfl := Option.some.inj hbegin
  obtain ⟨called, waiting, closed, hemits, hall, hclosed⟩ :=
    (Emits.begin (sound_of_after hms) event).run hns
  exact ⟨called, waiting, closed, hemits, hall, by simpa using hclosed⟩

/-- **An emission that has returned** has called all of them. -/
theorem emits_of_returned {event : Event} (h : after (ms ++ .begin event :: ns) = some s)
    (hreturned : .close (emissionsIn ms) ∈ ns) :
    Emits s (emissionsIn ms) event (List.range (handlersIn ms)) [] true := by
  obtain ⟨called, waiting, closed, hemits, hall, hclosed⟩ := exists_emits h
  obtain rfl := hclosed.2 hreturned
  obtain rfl := hemits.done rfl
  rw [List.append_nil] at hall
  exact hall ▸ hemits

end Traffic

end NodeSidecar
