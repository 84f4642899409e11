/-
**Runs of the scheduler's loop.**

A run is a list of moves: ticks at readings of the wall clock, commands, ends of fires, and looks at
the table of fires while shutting down, in any order.  Everything a run does is told by its moves,
so this module says once what a single move can do; the invariants of the loop are proved from that
and carried along runs by induction.

Main definitions:

* `Move`, `Loop.move` — something that happens to the loop, and what comes of it;
* `Loop.after`, `Loop.history` — the loop after a run, and the events of the run;
* `Loop.Moved` — the four kinds of moves: a tick that moves the timers, a trigger, the end of a
  fire, and a quiet move, which neither begins nor ends a fire.

Main results:

* `Loop.moved` — every move is of one of these kinds;
* `Loop.dispatch_cases` — what becomes of a dispatch;
* `Loop.after_append`, `Loop.history_append` — runs one after the other;
* `Loop.live_of_after` — a loop that has left the live phase does not come back to it.
-/

import NodeSidecar.Scheduler.Loop

set_option autoImplicit false

namespace NodeSidecar

/-- Something that happens to the loop. -/
inductive Move where
  | tick (now : Instant)
  | command (now : Duration) (c : Command)
  | finish (id : FireId) (outcome : Outcome)
  | look (now : Duration)

/-- The reading of the wall clock at a tick. -/
def Move.clock? : Move → Option Instant
  | .tick now => some now
  | _ => none

/-- The readings of the wall clock at the ticks of a run. -/
def ticks (ms : List Move) : List Instant := ms.filterMap Move.clock?

@[simp] theorem ticks_nil : ticks [] = [] := rfl

theorem ticks_cons (m : Move) (ms : List Move) : ticks (m :: ms) = m.clock?.toList ++ ticks ms := by
  cases h : m.clock? <;> simp [ticks, h]

/-! ### Events among effects -/

namespace Effect

@[simp] theorem events_nil : events [] = [] := rfl

@[simp] theorem events_cons_event (e : Event) (fx : List Effect) :
    events (.event e :: fx) = e :: events fx := rfl

@[simp] theorem events_append (fx gx : List Effect) :
    events (fx ++ gx) = events fx ++ events gx := List.filterMap_append

end Effect

namespace Loop

/-- What comes of a move. -/
def move (l : Loop) : Move → Loop × List Effect
  | .tick now => l.tick now
  | .command now c => (l.command now c).2
  | .finish id outcome => l.finish id outcome
  | .look now => l.look now

/-- The loop after a run. -/
def after (l : Loop) : List Move → Loop
  | [] => l
  | m :: ms => (l.move m).1.after ms

/-- The events of a run. -/
def history (l : Loop) : List Move → List Event
  | [] => []
  | m :: ms => Effect.events (l.move m).2 ++ (l.move m).1.history ms

@[simp] theorem after_nil (l : Loop) : l.after [] = l := rfl

@[simp] theorem history_nil (l : Loop) : l.history [] = [] := rfl

theorem after_cons (l : Loop) (m : Move) (ms : List Move) :
    l.after (m :: ms) = (l.move m).1.after ms := rfl

theorem history_cons (l : Loop) (m : Move) (ms : List Move) :
    l.history (m :: ms) = Effect.events (l.move m).2 ++ (l.move m).1.history ms := rfl

theorem after_append (l : Loop) (ms ns : List Move) :
    l.after (ms ++ ns) = (l.after ms).after ns := by
  induction ms generalizing l with
  | nil => rfl
  | cons m ms ih => exact ih (l.move m).1

theorem history_append (l : Loop) (ms ns : List Move) :
    l.history (ms ++ ns) = l.history ms ++ (l.after ms).history ns := by
  induction ms generalizing l with
  | nil => rfl
  | cons m ms ih =>
      rw [List.cons_append, history_cons, history_cons, ih, List.append_assoc]
      rfl

/-! ### Dispatching -/

/-- A name is registered when it is among the names of the tasks. -/
theorem registration?_isSome {l : Loop} {name : String} :
    (l.registration? name).isSome ↔ name ∈ l.taskNames := by
  simp only [registration?, taskNames, List.find?_isSome, List.mem_map, beq_iff_eq]

/-- The loop with one more fire in its table. -/
def withFire (l : Loop) (name : String) : Loop :=
  { l with fires := l.fires ++ [⟨⟨l.nextId⟩, name, false⟩], nextId := l.nextId + 1 }

/-- **What becomes of a dispatch**: the task is unknown, or it must not overlap with itself, or it
fires. -/
theorem dispatch_cases (l : Loop) (name : String) (source : FireSource) :
    (name ∉ l.taskNames ∧ l.dispatch name source = (.error (.taskNotFound name), l, [])) ∨
    (name ∈ l.taskNames ∧ (l.overlap = .skip ∧ 0 < l.inFlight name) ∧
      ∃ fx, l.dispatch name source = (.error (.alreadyRunning name), l, fx) ∧
        Effect.events fx = (if source = .timer then [.skipped name] else []) ∧
        (source = .manual → fx = [])) ∨
    (name ∈ l.taskNames ∧ ¬ (l.overlap = .skip ∧ 0 < l.inFlight name) ∧
      l.dispatch name source =
        (.ok ⟨l.nextId⟩, l.withFire name, [.event (.fired name ⟨l.nextId⟩ source)])) := by
  by_cases hr : name ∈ l.taskNames
  · have hsome : (l.registration? name).isNone = false := by
      have := registration?_isSome.2 hr
      rwa [Option.isNone_eq_false_iff]
    by_cases ho : l.overlap = .skip ∧ 0 < l.inFlight name
    · refine Or.inr (Or.inl ⟨hr, ho, ?_⟩)
      simp only [dispatch, hsome, if_pos ho]
      cases source with
      | timer => exact ⟨_, rfl, rfl, by simp⟩
      | manual => exact ⟨_, rfl, rfl, fun _ => rfl⟩
    · refine Or.inr (Or.inr ⟨hr, ho, ?_⟩)
      simp only [dispatch, hsome, if_neg ho]
      rfl
  · refine Or.inl ⟨hr, ?_⟩
    have hnone : (l.registration? name).isNone = true := by
      have := mt registration?_isSome.1 hr
      simpa using this
    simp only [dispatch, hnone, if_true]

/-! ### Kinds of moves -/

/-- The unfinished fires of the table, with their tasks. -/
def unfinished (l : Loop) : List (String × FireId) :=
  (l.fires.filter fun f => !f.finished).map fun f => (f.task, f.id)

@[simp] theorem unfinished_cleanUp (l : Loop) : l.cleanUp.unfinished = l.unfinished := by
  simp [unfinished, cleanUp]

/-- A quiet change of the loop neither begins nor ends a fire, and moves no timer. -/
structure Quiet (l l' : Loop) : Prop where
  registrations : l'.registrations = l.registrations
  overlap : l'.overlap = l.overlap
  nextId : l'.nextId = l.nextId
  unfinished : l'.unfinished = l.unfinished
  /-- What has ended does not come back. -/
  live : l'.phase = .live → l.phase = .live

theorem Quiet.refl (l : Loop) : Quiet l l := ⟨rfl, rfl, rfl, rfl, id⟩

theorem Quiet.trans {l l' l'' : Loop} (h : Quiet l l') (h' : Quiet l' l'') : Quiet l l'' :=
  ⟨h'.registrations.trans h.registrations, h'.overlap.trans h.overlap, h'.nextId.trans h.nextId,
    h'.unfinished.trans h.unfinished, h.live ∘ h'.live⟩

/-- The tasks that a tick dispatches: those that are due, while the scheduler is running. -/
def dispatched (l : Loop) (due : List String) : List String :=
  if l.state = .running then due else []

/-- **The kinds of moves**, each with the loop after it and its events. -/
inductive Moved (l : Loop) : Move → Loop → List Event → Prop
  /-- The timers are moved and the due tasks are dispatched. -/
  | ticked {now : Instant} {due : List String} {rs : List Registration} :
      l.phase = .live → advanceDue now l.registrations = .ok (due, rs) →
      Moved l (.tick now)
        ({ l with registrations := rs }.dispatchDue (l.dispatched due)).1.cleanUp
        (Effect.events ({ l with registrations := rs }.dispatchDue (l.dispatched due)).2)
  /-- A fire is asked for. -/
  | triggered {now : Duration} {task : String} :
      l.phase = .live →
      Moved l (.command now (.trigger task)) (l.dispatch task .manual).2.1
        (Effect.events (l.dispatch task .manual).2.2)
  /-- A fire ends. -/
  | ended {id : FireId} {outcome : Outcome} :
      Moved l (.finish id outcome) (l.finish id outcome).1
        (Effect.events (l.finish id outcome).2)
  /-- Nothing begins or ends; a loop that goes on has not ticked. -/
  | quiet {m : Move} {l' : Loop} :
      Quiet l l' → (l'.phase = .live → m.clock? = none) → Moved l m l' []

theorem quiet_look (l : Loop) (now : Duration) :
    Quiet l (l.look now).1 ∧ Effect.events (l.look now).2 = [] := by
  cases hp : l.phase with
  | live => simp only [look, hp]; exact ⟨Quiet.refl l, rfl⟩
  | ended => simp only [look, hp]; exact ⟨Quiet.refl l, rfl⟩
  | draining start deadline =>
      have hc : ∀ p : Phase, p ≠ .live → Quiet l { l.cleanUp with phase := p } := fun p h =>
        ⟨rfl, rfl, rfl, unfinished_cleanUp l, fun hl => absurd hl h⟩
      simp only [look, hp]
      split
      · exact ⟨hc _ (by simp), rfl⟩
      · split
        · exact ⟨hc _ (by simp), rfl⟩
        · exact ⟨⟨rfl, rfl, rfl, unfinished_cleanUp l, id⟩, rfl⟩

theorem quiet_shutDown (l : Loop) (now : Duration) :
    Quiet l (l.shutDown now).2.1 ∧ Effect.events (l.shutDown now).2.2 = [] := by
  have hs : ∀ p : Phase, p ≠ .live → Quiet l { l with state := .stopped, phase := p } := fun p h =>
    ⟨rfl, rfl, rfl, rfl, fun hl => absurd hl h⟩
  simp only [shutDown]
  split
  · exact ⟨hs _ (by simp), rfl⟩
  · split
    · exact ⟨hs _ (by simp), rfl⟩
    · next deadline _ =>
      -- the first look comes at once, after the phase has changed
      have hd := hs (.draining now deadline) (by simp)
      obtain ⟨hq, he⟩ := quiet_look _ now
      exact ⟨hd.trans hq, he⟩

/-- A dispatch of nothing does nothing. -/
@[simp] theorem dispatchDue_nil (l : Loop) : l.dispatchDue [] = (l, []) := rfl

theorem dispatchDue_cons (l : Loop) (name : String) (names : List String) :
    l.dispatchDue (name :: names) =
      (((l.dispatch name .timer).2.1.dispatchDue names).1,
        (l.dispatch name .timer).2.2 ++ ((l.dispatch name .timer).2.1.dispatchDue names).2) := rfl

/-- A tick whose timers give an answer moves them and dispatches what is due. -/
theorem tick_of_advanceDue {l : Loop} {now : Instant} {due : List String}
    {rs : List Registration} (hp : l.phase = .live)
    (h : advanceDue now l.registrations = .ok (due, rs)) :
    l.tick now = (({ l with registrations := rs }.dispatchDue (l.dispatched due)).1.cleanUp,
      ({ l with registrations := rs }.dispatchDue (l.dispatched due)).2) := by
  simp only [tick, hp, h, dispatched]
  by_cases hs : l.state = .running
  · simp [hs]
  · simp [hs]

/-- **Every move is of one of the kinds.** -/
theorem moved (l : Loop) (m : Move) :
    Moved l m (l.move m).1 (Effect.events (l.move m).2) := by
  cases m with
  | tick now =>
      by_cases hp : l.phase = .live
      · cases ha : advanceDue now l.registrations with
        | ok p =>
            have ht := tick_of_advanceDue hp ha
            simp only [move, ht]
            exact .ticked hp ha
        | error b =>
            -- the loop has ended, so it is not live after the tick
            simp only [move, tick, hp, ha, ne_eq, not_true, if_false]
            exact .quiet ⟨rfl, rfl, rfl, rfl, fun h => absurd h (by simp)⟩ (by simp)
      · simp only [move, tick, hp, ne_eq, not_false_eq_true, if_true]
        exact .quiet (Quiet.refl l) fun h => absurd h hp
  | command now c =>
      cases hp : l.phase with
      | draining start deadline =>
          simp only [move, command, hp]
          exact .quiet (Quiet.refl l) fun _ => rfl
      | ended =>
          simp only [move, command, hp]
          exact .quiet (Quiet.refl l) fun _ => rfl
      | live =>
          cases c with
          | trigger task => simp only [move, command, hp]; exact .triggered hp
          | tasks => simp only [move, command, hp]; exact .quiet (Quiet.refl l) fun _ => rfl
          | pause =>
              simp only [move, command, hp]
              exact .quiet ⟨rfl, rfl, rfl, rfl, fun _ => hp⟩ fun _ => rfl
          | resume =>
              simp only [move, command, hp]
              exact .quiet ⟨rfl, rfl, rfl, rfl, fun _ => hp⟩ fun _ => rfl
          | shutdown =>
              obtain ⟨hq, he⟩ := quiet_shutDown l now
              simp only [move, command, hp, he]
              exact .quiet hq fun _ => rfl
  | finish id outcome => exact .ended
  | look now =>
      obtain ⟨hq, he⟩ := quiet_look l now
      simp only [move, he]
      exact .quiet hq fun _ => rfl

/-! ### What every move leaves alone -/

/-- Two loops with the same tasks, policy, state and phase; their fires may differ. -/
structure SameSetup (l l' : Loop) : Prop where
  registrations : l'.registrations = l.registrations
  overlap : l'.overlap = l.overlap
  state : l'.state = l.state
  phase : l'.phase = l.phase

theorem SameSetup.refl (l : Loop) : SameSetup l l := ⟨rfl, rfl, rfl, rfl⟩

theorem SameSetup.trans {l l' l'' : Loop} (h : SameSetup l l') (h' : SameSetup l' l'') :
    SameSetup l l'' :=
  ⟨h'.registrations.trans h.registrations, h'.overlap.trans h.overlap, h'.state.trans h.state,
    h'.phase.trans h.phase⟩

theorem SameSetup.taskNames {l l' : Loop} (h : SameSetup l l') : l'.taskNames = l.taskNames := by
  rw [Loop.taskNames, Loop.taskNames, h.registrations]

theorem sameSetup_dispatch (l : Loop) (name : String) (source : FireSource) :
    SameSetup l (l.dispatch name source).2.1 := by
  rcases dispatch_cases l name source with ⟨_, h⟩ | ⟨_, _, fx, h, _⟩ | ⟨_, _, h⟩
  · rw [h]; exact SameSetup.refl l
  · rw [h]; exact SameSetup.refl l
  · rw [h]; exact ⟨rfl, rfl, rfl, rfl⟩

theorem sameSetup_dispatchDue (l : Loop) (names : List String) :
    SameSetup l (l.dispatchDue names).1 := by
  induction names generalizing l with
  | nil => exact SameSetup.refl l
  | cons name names ih =>
      rw [dispatchDue_cons]
      exact (sameSetup_dispatch l name .timer).trans (ih _)

theorem sameSetup_finish (l : Loop) (id : FireId) (outcome : Outcome) :
    SameSetup l (l.finish id outcome).1 := by
  unfold finish
  split
  · exact SameSetup.refl l
  · exact ⟨rfl, rfl, rfl, rfl⟩

/-- The policy is settled from the start. -/
@[simp] theorem overlap_move (l : Loop) (m : Move) : (l.move m).1.overlap = l.overlap := by
  generalize (l.move m).1 = l', Effect.events (l.move m).2 = es, moved l m = h
  cases h with
  | ticked => exact (sameSetup_dispatchDue _ _).overlap
  | triggered => exact (sameSetup_dispatch l _ _).overlap
  | ended => exact (sameSetup_finish l _ _).overlap
  | quiet hq => exact hq.overlap

@[simp] theorem overlap_after (l : Loop) (ms : List Move) : (l.after ms).overlap = l.overlap := by
  induction ms generalizing l with
  | nil => rfl
  | cons m ms ih => rw [after_cons, ih, overlap_move]

/-- A move of a loop that is live after it was live before. -/
theorem live_of_move {l : Loop} {m : Move} (h : (l.move m).1.phase = .live) : l.phase = .live := by
  have hm := moved l m
  generalize (l.move m).1 = l', Effect.events (l.move m).2 = es at hm h
  cases hm with
  | ticked hp _ => exact hp
  | triggered hp => exact hp
  | ended => rwa [(sameSetup_finish l _ _).phase] at h
  | quiet hq => exact hq.live h

theorem live_of_after {l : Loop} {ms : List Move} (h : (l.after ms).phase = .live) :
    l.phase = .live := by
  induction ms generalizing l with
  | nil => exact h
  | cons m ms ih => exact live_of_move (ih h)

end Loop

end NodeSidecar
