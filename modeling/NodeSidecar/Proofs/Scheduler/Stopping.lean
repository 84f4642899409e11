/-
**A loop that does not go on.**

The loop leaves its live phase for good when it is shut down, or when a timer breaks down.  From
then on it dispatches nothing and answers nothing; the fires that are unfinished go on to their ends
by themselves.  A loop that is shut down waits for them: it looks at its table of fires until none
is unfinished, or until the time for that is up.

Main results:

* `Loop.phase_look` — **a look ends the waiting if no fire is unfinished or the time is up**;
* `Loop.deadline?_eq_some_iff` — the time for the fires has an end if the clock can show it;
* `Loop.shutDown_cases` — the loop that is shut down has stopped, and waits or has ended;
* `Loop.command_of_live` — a loop that goes on answers, and goes on unless it is shut down;
* `Loop.move_of_not_live` — **a loop that does not go on keeps its state, and only ends of fires are
  told**;
* `Loop.phase_move_of_draining` — the phase of a loop that waits changes only by a look.
-/

import NodeSidecar.Proofs.Scheduler.Ledger

set_option autoImplicit false

namespace NodeSidecar

namespace Loop

variable {l : Loop}

/-! ### One move -/

theorem tick_of_not_live (hp : l.phase ≠ .live) (now : Instant) : l.tick now = (l, []) := by
  rw [tick, if_pos hp]

/-- A loop that does not go on answers no command. -/
theorem command_of_not_live (hp : l.phase ≠ .live) (now : Duration) (c : Command) :
    ∃ text, l.command now c = (.failed (.channelError text), l, []) := by
  unfold command
  cases hphase : l.phase with
  | live => exact absurd hphase hp
  | draining start deadline => exact ⟨_, rfl⟩
  | ended => exact ⟨_, rfl⟩

/-- No entry is left after a clean-up when no fire is unfinished. -/
theorem isEmpty_cleanUp (l : Loop) : l.cleanUp.fires.isEmpty = true ↔ l.unfinished = [] := by
  rw [List.isEmpty_iff, unfinished, List.map_eq_nil_iff]
  rfl

/-- A look changes neither the state of the scheduler nor whether its loop goes on. -/
theorem look_keeps (l : Loop) (now : Duration) :
    (l.look now).1.state = l.state ∧ ((l.look now).1.phase = .live ↔ l.phase = .live) := by
  unfold look
  split
  · next start deadline hphase =>
    simp only
    split
    · exact ⟨rfl, by simp [hphase]⟩
    · split
      · exact ⟨rfl, by simp [hphase]⟩
      · exact ⟨rfl, Iff.rfl⟩
  · exact ⟨rfl, Iff.rfl⟩

/-- A scheduler that is shut down has stopped, and its loop does not go on. -/
theorem shutDown_stopped (l : Loop) (now : Duration) :
    (l.shutDown now).2.1.state = .stopped ∧ (l.shutDown now).2.1.phase ≠ .live := by
  simp only [shutDown]
  split
  · exact ⟨rfl, by simp⟩
  · split
    · exact ⟨rfl, by simp⟩
    · next deadline _ =>
      obtain ⟨hstate, hphase⟩ :=
        look_keeps { l with state := .stopped, phase := .draining now deadline } now
      exact ⟨hstate, fun hlive => by simpa using hphase.1 hlive⟩

/-- **A look ends the waiting** if no fire is unfinished or the time is up. -/
theorem phase_look {start deadline : Duration} (h : l.phase = .draining start deadline)
    (now : Duration) : (l.look now).1.phase =
      if l.unfinished = [] ∨ deadline.nanos ≤ now.nanos then .ended
      else .draining start deadline := by
  rw [look, h]
  by_cases hempty : l.unfinished = []
  · simp only [(isEmpty_cleanUp l).2 hempty, if_true, hempty, true_or]
  · have hleft : l.cleanUp.fires.isEmpty = false := by
      rw [Bool.eq_false_iff]
      exact mt (isEmpty_cleanUp l).1 hempty
    by_cases htime : deadline.nanos ≤ now.nanos
    · simp [hleft, htime]
    · simp only [hleft, hempty, htime, or_self, if_false]
      exact h

/-! ### Shutting down -/

/-- **The deadline is the sum**, and there is one if the clock can show it. -/
theorem deadline?_eq_some_iff {start timeout deadline : Duration} :
    deadline? start timeout = some deadline ↔
      deadline = ⟨start.nanos + timeout.nanos⟩ ∧ deadline.seconds ≤ lastSecond := by
  simp only [deadline?, Option.ite_none_right_eq_some, Option.some.injEq]
  constructor
  · rintro ⟨hshown, rfl⟩
    exact ⟨rfl, hshown⟩
  · rintro ⟨rfl, hshown⟩
    exact ⟨hshown, rfl⟩

/-- A loop with an empty table ends at once. -/
theorem shutDown_of_no_fires (h : l.fires = []) (now : Duration) :
    (l.shutDown now).1 = .done ∧ (l.shutDown now).2.1.phase = .ended := by
  simp [shutDown, h]

/-- A loop that cannot tell the end of its time ends without an answer. -/
theorem shutDown_of_no_deadline (h : l.fires ≠ []) {now : Duration}
    (hdeadline : deadline? now l.shutdownTimeout = none) :
    (l.shutDown now).1 = .failed (.channelError "scheduler loop dropped the shut down reply") ∧
      (l.shutDown now).2.1.phase = .ended := by
  simp [shutDown, h, hdeadline]

/-- Any other loop takes its first look at once, and waits unless that ends the waiting. -/
theorem shutDown_of_deadline (h : l.fires ≠ []) {now deadline : Duration}
    (hdeadline : deadline? now l.shutdownTimeout = some deadline) :
    let ends := l.unfinished = [] ∨ deadline.nanos ≤ now.nanos
    (l.shutDown now).1 = (if ends then .done else .pending) ∧
      (l.shutDown now).2.1.phase = if ends then .ended else .draining now deadline := by
  intro ends
  -- the look finds the same unfinished fires
  have hphase := phase_look
    (l := { l with state := .stopped, phase := .draining now deadline }) rfl now
  have hunfinished : ({ l with state := .stopped, phase := .draining now deadline } :
      Loop).unfinished = l.unfinished := rfl
  rw [hunfinished] at hphase
  have hempty : l.fires.isEmpty = false := by simpa using h
  simp only [shutDown, hempty, Bool.false_eq_true, if_false, hdeadline, hphase]
  by_cases hover : ends
  · simp [ends, hover]
  · simp [ends, hover]

/-- **What becomes of a loop that is shut down**: it ends at once, it waits, or, if the end of its
time cannot be told, it ends without an answer. -/
theorem shutDown_cases (l : Loop) (now : Duration) :
    ((l.shutDown now).1 = .done ∧ (l.shutDown now).2.1.phase = .ended ∧
      (l.unfinished = [] ∨ now.nanos + l.shutdownTimeout.nanos ≤ now.nanos)) ∨
    ((l.shutDown now).1 = .pending ∧ ∃ deadline, (l.shutDown now).2.1.phase =
      .draining now deadline ∧ deadline.nanos = now.nanos + l.shutdownTimeout.nanos) ∨
    ((l.shutDown now).1 = .failed (.channelError "scheduler loop dropped the shut down reply") ∧
      (l.shutDown now).2.1.phase = .ended) := by
  by_cases hempty : l.fires = []
  · obtain ⟨hreply, hended⟩ := shutDown_of_no_fires hempty now
    refine Or.inl ⟨hreply, hended, Or.inl ?_⟩
    rw [unfinished, hempty]
    rfl
  · cases hdeadline : deadline? now l.shutdownTimeout with
    | none => exact Or.inr (Or.inr (shutDown_of_no_deadline hempty hdeadline))
    | some deadline =>
        obtain ⟨hreply, hphase⟩ := shutDown_of_deadline hempty hdeadline
        obtain ⟨rfl, -⟩ := deadline?_eq_some_iff.1 hdeadline
        by_cases hover : l.unfinished = [] ∨ now.nanos + l.shutdownTimeout.nanos ≤ now.nanos
        · rw [if_pos hover] at hreply hphase
          exact Or.inl ⟨hreply, hphase, hover⟩
        · rw [if_neg hover] at hreply hphase
          exact Or.inr (Or.inl ⟨hreply, _, hphase, rfl⟩)

/-! ### What a command and a move keep -/

/-- **A loop that goes on answers**, and goes on unless it is shut down. -/
theorem command_of_live (hp : l.phase = .live) (now : Duration) {c : Command}
    (hc : c ≠ .shutdown) : (l.command now c).2.1.phase = .live ∧ (l.command now c).1 ≠ .pending ∧
      ∀ text, (l.command now c).1 ≠ .failed (.channelError text) := by
  cases c with
  | trigger task =>
      rw [command, hp]
      rcases l.dispatch_cases task .manual with ⟨_, h⟩ | ⟨_, _, fx, h, _⟩ | ⟨_, _, h⟩
      · simp [h, hp]
      · simp [h, hp]
      · simp [h, hp, withFire]
  | tasks => simp [command, hp]
  | pause => simp [command, hp]
  | resume => simp [command, hp]
  | shutdown => exact absurd rfl hc

theorem shutdownTimeout_dispatch (l : Loop) (name : String) (source : FireSource) :
    (l.dispatch name source).2.1.shutdownTimeout = l.shutdownTimeout := by
  rcases dispatch_cases l name source with ⟨_, h⟩ | ⟨_, _, fx, h, _⟩ | ⟨_, _, h⟩
  · rw [h]
  · rw [h]
  · rw [h]
    rfl

theorem shutdownTimeout_dispatchDue (l : Loop) (names : List String) :
    (l.dispatchDue names).1.shutdownTimeout = l.shutdownTimeout := by
  induction names generalizing l with
  | nil => rfl
  | cons name names ih => rw [dispatchDue_cons, ih, shutdownTimeout_dispatch]

theorem shutdownTimeout_look (l : Loop) (now : Duration) :
    (l.look now).1.shutdownTimeout = l.shutdownTimeout := by
  unfold look
  split
  · simp only
    split
    · rfl
    · split
      · rfl
      · rfl
  · rfl

theorem shutdownTimeout_command (l : Loop) (now : Duration) (c : Command) :
    (l.command now c).2.1.shutdownTimeout = l.shutdownTimeout := by
  by_cases hp : l.phase = .live
  · cases c with
    | trigger task =>
        rw [command, hp]
        exact shutdownTimeout_dispatch l task .manual
    | tasks => rw [command, hp]
    | pause => rw [command, hp]
    | resume => rw [command, hp]
    | shutdown =>
        rw [command, hp]
        simp only [shutDown]
        split
        · rfl
        · split
          · rfl
          · exact shutdownTimeout_look _ now
  · obtain ⟨text, h⟩ := command_of_not_live hp now c
    rw [h]

/-- The time for the fires is settled from the start. -/
@[simp] theorem shutdownTimeout_move (l : Loop) (m : Move) :
    (l.move m).1.shutdownTimeout = l.shutdownTimeout := by
  cases m with
  | tick now =>
      by_cases hp : l.phase = .live
      · cases ha : advanceDue now l.registrations with
        | ok p =>
            rw [move, tick_of_advanceDue hp ha]
            exact shutdownTimeout_dispatchDue _ _
        | error b => simp [move, tick, hp, ha]
      · rw [move, tick_of_not_live hp]
  | command now c => exact shutdownTimeout_command l now c
  | finish id outcome =>
      simp only [move, finish]
      split
      · rfl
      · rfl
  | look now => exact shutdownTimeout_look l now

@[simp] theorem shutdownTimeout_after (l : Loop) (ms : List Move) :
    (l.after ms).shutdownTimeout = l.shutdownTimeout := by
  induction ms generalizing l with
  | nil => rfl
  | cons m ms ih => rw [after_cons, ih, shutdownTimeout_move]

/-- **A move of a loop that does not go on**: the state is the same, and only the end of a fire can
be told. -/
theorem move_of_not_live (hp : l.phase ≠ .live) (m : Move) :
    (l.move m).1.state = l.state ∧ (l.move m).1.phase ≠ .live ∧
      ∀ e ∈ Effect.events (l.move m).2, ∃ id, e.end? = some id := by
  refine ⟨?_, mt live_of_move hp, fun e he => ?_⟩
  · cases m with
    | tick now => rw [move, tick_of_not_live hp]
    | command now c =>
        obtain ⟨text, h⟩ := command_of_not_live hp now c
        rw [move, h]
    | finish id outcome => exact (sameSetup_finish l id outcome).state
    | look now => exact (l.look_keeps now).1
  · have hm := l.moved m
    generalize (l.move m).1 = l', Effect.events (l.move m).2 = es at hm he
    cases hm with
    | ticked hlive => exact absurd hlive hp
    | triggered hlive => exact absurd hlive hp
    | @ended id outcome =>
        rcases l.finish_cases id outcome with ⟨_, h⟩ | ⟨task, _, _, h⟩
        · rw [h] at he
          cases he
        · rw [h, List.mem_singleton] at he
          exact ⟨id, by rw [he, Outcome.end?_event]⟩
    | quiet => cases he

/-- The phase of a loop that waits changes only when a look ends the waiting. -/
theorem phase_move_of_draining {start deadline : Duration}
    (h : l.phase = .draining start deadline) (m : Move) :
    (l.move m).1.phase = .draining start deadline ∨
      (l.move m).1.phase = .ended ∧ ∃ now, m = .look now ∧
        (l.unfinished = [] ∨ deadline.nanos ≤ now.nanos) := by
  have hp : l.phase ≠ .live := by simp [h]
  cases m with
  | tick now => rw [move, tick_of_not_live hp]; exact Or.inl h
  | command now c =>
      obtain ⟨text, hc⟩ := command_of_not_live hp now c
      rw [move, hc]
      exact Or.inl h
  | finish id outcome => exact Or.inl ((sameSetup_finish l id outcome).phase.trans h)
  | look now =>
      rw [move, phase_look h]
      by_cases hover : l.unfinished = [] ∨ deadline.nanos ≤ now.nanos
      · rw [if_pos hover]
        exact Or.inr ⟨rfl, now, rfl, hover⟩
      · rw [if_neg hover]
        exact Or.inl rfl

/-- A loop that has ended stays so. -/
theorem phase_move_of_ended (h : l.phase = .ended) (m : Move) : (l.move m).1.phase = .ended := by
  have hp : l.phase ≠ .live := by simp [h]
  cases m with
  | tick now => rwa [move, tick_of_not_live hp]
  | command now c =>
      obtain ⟨text, hc⟩ := command_of_not_live hp now c
      rwa [move, hc]
  | finish id outcome => exact (sameSetup_finish l id outcome).phase.trans h
  | look now => rwa [move, look, h]

end Loop

end NodeSidecar
