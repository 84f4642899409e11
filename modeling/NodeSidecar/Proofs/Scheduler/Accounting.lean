/-
**The account of events.**

Whatever happens to a scheduler is told by its events, and by nothing more than its events: a due
task by one event per tick while the scheduler is running, a trigger by its answer and at most one
event, a fire by one event at its begin and one at its end.  Whether the scheduler is running is up
to the pauses and the resumes of the run alone.  This module settles the account for whole runs,
under both policies.

Main definitions:

* `DueEvent` — the event that a due task produces at a tick;
* `TriggerAnswer` — the answers to a trigger, each with its events;
* `Outcome.Tells` — the event that tells of the end of a fire;
* `Move.asks?`, `stateAsked` — the state that a move asks for, and the one that a run does;
* `Accounted` — the account of a run.

Main results:

* `Ledger.events_dispatchDue` — a tick produces one event for each due task and none for the others;
* `Ledger.triggerAnswer` — the three answers to a trigger;
* `Loop.exists_finish_of_end` — an end is told only when an unfinished fire ends;
* `Loop.state_move`, `Loop.state_after` — the last pause or resume decides the state of a scheduler
  whose loop goes on;
* `event_accounting` — **every run is accounted for**.
-/

import NodeSidecar.Proofs.Scheduler.Coalescing

set_option autoImplicit false

namespace NodeSidecar

/-! ### What is to be told -/

/-- The event that a due task produces at a tick after a history. -/
inductive DueEvent (overlap : OverlapPolicy) (es : List Event) (task : String) : Event → Prop
  /-- The task fires if it may overlap with itself or no fire of it is unfinished. -/
  | fired {id : FireId} :
      overlap = .allow ∨ openFiresOf task es = [] → id ∉ (firesOf es).map Prod.snd →
      DueEvent overlap es task (.fired task id .timer)
  | skipped : overlap = .skip → openFiresOf task es ≠ [] → DueEvent overlap es task (.skipped task)

/-- The answers to a trigger after a history, each with its events. -/
inductive TriggerAnswer (overlap : OverlapPolicy) (registered : Prop) (es : List Event)
    (task : String) : Reply → List Event → Prop
  | unknown :
      ¬ registered → TriggerAnswer overlap registered es task (.failed (.taskNotFound task)) []
  | running :
      registered → overlap = .skip → openFiresOf task es ≠ [] →
      TriggerAnswer overlap registered es task (.failed (.alreadyRunning task)) []
  | fired {id : FireId} :
      registered → overlap = .allow ∨ openFiresOf task es = [] →
      id ∉ (firesOf es).map Prod.snd →
      TriggerAnswer overlap registered es task (.fired id) [.fired task id .manual]

/-- An event tells of the end of a fire: of its completion if it succeeded, and of its failure if it
failed or panicked. -/
def Outcome.Tells (task : String) (id : FireId) : Outcome → Event → Prop
  | .completed duration, e => e = .completed task id duration
  | .failed message, e => e = .failed task id message
  | .panicked _, e => ∃ message, e = .failed task id message

theorem Outcome.tells_event (o : Outcome) (task : String) (id : FireId) :
    o.Tells task id (o.event task id) := by
  rcases o with _ | _ | (_ | _)
  · rfl
  · rfl
  · exact ⟨_, rfl⟩
  · exact ⟨_, rfl⟩

/-! ### Dispatches -/

namespace Loop

variable {l l' : Loop} {task : String} {fx : List Effect}

/-- A trigger answers with the failure of its dispatch, -/
theorem command_trigger_error {e : SchedulerError} (hlive : l.phase = .live)
    (hd : l.dispatch task .manual = (.error e, l', fx)) (now : Duration) :
    l.command now (.trigger task) = (.failed e, l', fx) := by
  simp only [command, hlive, hd]

/-- or with the identifier of the fire. -/
theorem command_trigger_ok {id : FireId} (hlive : l.phase = .live)
    (hd : l.dispatch task .manual = (.ok id, l', fx)) (now : Duration) :
    l.command now (.trigger task) = (.fired id, l', fx) := by
  simp only [command, hlive, hd]

end Loop

theorem DueEvent.task_eq {overlap : OverlapPolicy} {es : List Event} {task : String} {e : Event}
    (h : DueEvent overlap es task e) : e.task = task := by
  cases h with
  | fired => rfl
  | skipped => rfl

/-- What a due task produces changes no other task's unfinished fires. -/
theorem DueEvent.openFiresOf_eq {overlap : OverlapPolicy} {es : List Event} {task other : String}
    {e : Event} (h : DueEvent overlap es task e) (hes : History overlap es) (hne : task ≠ other) :
    openFiresOf other (es ++ [e]) = openFiresOf other es := by
  cases h with
  | fired _ hid =>
      rw [openFiresOf, openFires_fired (hes.not_mem_ends hid), List.filter_append]
      simp [hne, openFiresOf]
  | skipped => rw [openFiresOf, openFires_skipped, openFiresOf]

namespace Ledger

variable {l : Loop} {es : List Event}

/-- A task is held back under the skipping policy only, while a fire of it is unfinished. -/
theorem may_fire_iff (h : Ledger l es) (task : String) :
    ¬ (l.overlap = .skip ∧ 0 < l.inFlight task) ↔
      l.overlap = .allow ∨ openFiresOf task es = [] := by
  rw [h.inFlight_pos]
  cases l.overlap <;> simp

/-- A due task that is registered produces one event. -/
theorem events_dispatch (h : Ledger l es) {task : String} (hr : task ∈ l.taskNames) :
    ∃ e, DueEvent l.overlap es task e ∧ Effect.events (l.dispatch task .timer).2.2 = [e] := by
  rcases l.dispatch_cases task .timer with ⟨hn, _⟩ | ⟨_, ⟨ho, hpos⟩, fx, hd, hfx, _⟩ | ⟨_, hno, hd⟩
  · exact absurd hr hn
  · refine ⟨_, .skipped ho ((h.inFlight_pos task).1 hpos), ?_⟩
    rw [hd, hfx, if_pos rfl]
  · refine ⟨_, .fired ((h.may_fire_iff task).1 hno) h.next_fresh, ?_⟩
    rw [hd]
    rfl

/-- **A tick produces one event for each due task and none for the others.** -/
theorem events_dispatchDue (h : Ledger l es) {names : List String}
    (hr : ∀ name ∈ names, name ∈ l.taskNames) (hnd : names.Nodup) (task : String) :
    (task ∈ names → ∃ e, DueEvent l.overlap es task e ∧
      (Effect.events (l.dispatchDue names).2).filter (fun e => e.task == task) = [e]) ∧
    (task ∉ names →
      (Effect.events (l.dispatchDue names).2).filter (fun e => e.task == task) = []) := by
  induction names generalizing l es with
  | nil => simp
  | cons name names ih =>
      obtain ⟨hn, hnd'⟩ := List.nodup_cons.1 hnd
      obtain ⟨e₁, hdue, he₁⟩ := h.events_dispatch (hr name List.mem_cons_self)
      have hsame := l.sameSetup_dispatch name .timer
      have hled := h.dispatch name .timer
      rw [he₁] at hled
      have hreg : ∀ n ∈ names, n ∈ (l.dispatch name .timer).2.1.taskNames := by
        intro n hm
        rw [hsame.taskNames]
        exact hr n (List.mem_cons_of_mem _ hm)
      obtain ⟨hin, hout⟩ := ih hled hreg hnd'
      rw [Loop.dispatchDue_cons, Effect.events_append, he₁, List.singleton_append,
        List.filter_cons, hdue.task_eq]
      by_cases ht : name = task
      · subst ht
        rw [hout hn]
        simpa using hdue
      · -- the first event is about another task
        have hne : (name == task) = false := by simpa using ht
        rw [hne]
        constructor
        · intro hm
          have hm' : task ∈ names := (List.mem_cons.1 hm).resolve_left (Ne.symm ht)
          obtain ⟨e, he, hf⟩ := hin hm'
          refine ⟨e, ?_, hf⟩
          rw [hsame.overlap] at he
          have hopen := hdue.openFiresOf_eq h.history ht
          cases he with
          | fired ho hid =>
              refine .fired (by rwa [hopen] at ho) fun hmem => hid ?_
              rw [firesOf_append, List.map_append]
              exact List.mem_append_left _ hmem
          | skipped ho hne' => exact .skipped ho (by rwa [hopen] at hne')
        · intro hm
          exact hout fun hm' => hm (List.mem_cons_of_mem _ hm')

/-- **The three answers to a trigger**, each with its events. -/
theorem triggerAnswer (h : Ledger l es) (hlive : l.phase = .live) (now : Duration)
    (task : String) :
    TriggerAnswer l.overlap (task ∈ l.taskNames) es task (l.command now (.trigger task)).1
      (Effect.events (l.command now (.trigger task)).2.2) := by
  rcases l.dispatch_cases task .manual with
    ⟨hn, hd⟩ | ⟨hr, ⟨ho, hpos⟩, fx, hd, _, hfx⟩ | ⟨hr, hno, hd⟩
  · rw [Loop.command_trigger_error hlive hd now]
    exact .unknown hn
  · rw [Loop.command_trigger_error hlive hd now, hfx rfl]
    exact .running hr ho ((h.inFlight_pos task).1 hpos)
  · rw [Loop.command_trigger_ok hlive hd now]
    exact .fired hr ((h.may_fire_iff task).1 hno) h.next_fresh

/-- While the scheduler is running, a tick tells of its due tasks and of nothing else. -/
theorem events_tick (h : Ledger l es) (hnd : l.taskNames.Nodup) (hlive : l.phase = .live)
    (hrun : l.state = .running) {now : Instant} {due : List String} {rs : List Registration}
    (ha : advanceDue now l.registrations = .ok (due, rs)) (task : String) :
    (task ∈ due → ∃ e, DueEvent l.overlap es task e ∧
      (Effect.events (l.tick now).2).filter (fun e => e.task == task) = [e]) ∧
    (task ∉ due → (Effect.events (l.tick now).2).filter (fun e => e.task == task) = []) := by
  have hrs : Ledger { l with registrations := rs } es := h.congr rfl rfl rfl
  have hnames : ({ l with registrations := rs } : Loop).taskNames = l.taskNames := by
    rw [Loop.taskNames_eq_roster, Loop.taskNames_eq_roster]
    congr 1
    exact Loop.roster_eq_of_forall₂ ((advanceDue_ok ha).2.imp fun _ _ h => h.name_timer)
  have hsub : due.Sublist l.taskNames := sublist_of_advanceDue ha
  have hreg : ∀ name ∈ due, name ∈ ({ l with registrations := rs } : Loop).taskNames := by
    intro name hm
    rw [hnames]
    exact hsub.subset hm
  have hd : l.dispatched due = due := if_pos hrun
  rw [Loop.tick_of_advanceDue hlive ha, hd]
  exact hrs.events_dispatchDue hreg (hnd.sublist hsub) task

end Ledger

/-! ### Where the ends come from -/

namespace Loop

variable {l : Loop} {e : Event}

/-- A dispatch ends no fire. -/
theorem end?_of_dispatch {name : String} {source : FireSource}
    (h : e ∈ Effect.events (l.dispatch name source).2.2) : e.end? = none := by
  rcases l.dispatch_cases name source with ⟨_, hd⟩ | ⟨_, _, fx, hd, hfx, _⟩ | ⟨_, _, hd⟩
  · rw [hd] at h
    cases h
  · rw [hd, hfx] at h
    split at h
    · rw [List.mem_singleton.1 h]
      rfl
    · cases h
  · rw [hd] at h
    rw [List.mem_singleton.1 h]
    rfl

theorem end?_of_dispatchDue {names : List String}
    (h : e ∈ Effect.events (l.dispatchDue names).2) : e.end? = none := by
  induction names generalizing l with
  | nil => cases h
  | cons name names ih =>
      rw [dispatchDue_cons, Effect.events_append] at h
      rcases List.mem_append.1 h with h | h
      · exact end?_of_dispatch h
      · exact ih h

/-- An event of a run is an event of one of its moves. -/
theorem exists_move_of_mem_history {ms : List Move} (h : e ∈ l.history ms) :
    ∃ before m later, ms = before ++ m :: later ∧
      e ∈ Effect.events ((l.after before).move m).2 := by
  induction ms generalizing l with
  | nil => cases h
  | cons m ms ih =>
      rw [history_cons] at h
      rcases List.mem_append.1 h with h | h
      · exact ⟨[], m, ms, rfl, h⟩
      · obtain ⟨before, m', later, rfl, he⟩ := ih h
        exact ⟨m :: before, m', later, rfl, he⟩

/-- A move that tells of the end of a fire is the end of that fire, which was unfinished. -/
theorem end_of_move {m : Move} {id : FireId} (h : e ∈ Effect.events (l.move m).2)
    (hid : e.end? = some id) :
    ∃ outcome task, m = .finish id outcome ∧ (task, id) ∈ l.unfinished ∧
      e = outcome.event task id := by
  have hm := moved l m
  generalize (l.move m).1 = l', Effect.events (l.move m).2 = es at hm h
  cases hm with
  | ticked => rw [end?_of_dispatchDue h] at hid; cases hid
  | triggered => rw [end?_of_dispatch h] at hid; cases hid
  | @ended id' outcome =>
      rcases l.finish_cases id' outcome with ⟨_, hf⟩ | ⟨task, hopen, _, he⟩
      · rw [hf] at h
        cases h
      · rw [he] at h
        obtain rfl := List.mem_singleton.1 h
        obtain rfl : id' = id := by simpa using hid
        exact ⟨outcome, task, rfl, hopen, rfl⟩
  | quiet => cases h

end Loop

/-! ### The state that a run asks for -/

/-- The state that a move asks for. -/
def Move.asks? : Move → Option SchedulerState
  | .command _ .pause => some .paused
  | .command _ .resume => some .running
  | _ => none

/-- **The state that a run asks for**: the one of its last pause or resume.  A scheduler that was
never asked is running. -/
def stateAsked (ms : List Move) : SchedulerState := (ms.filterMap Move.asks?).getLastD .running

namespace Loop

variable {l : Loop}

/-- A move of a loop that goes on takes the scheduler to the state that it asks for, if any. -/
theorem state_move {m : Move} (hlive : (l.move m).1.phase = .live) :
    (l.move m).1.state = m.asks?.getD l.state := by
  have hp := live_of_move hlive
  cases m with
  | tick now =>
      cases ha : advanceDue now l.registrations with
      | ok p =>
          rw [move, tick_of_advanceDue hp ha]
          exact (sameSetup_dispatchDue _ _).state
      | error b => simp [move, tick, hp, ha] at hlive
  | finish id outcome => exact (sameSetup_finish l id outcome).state
  | look now => exact (l.look_keeps now).1
  | command now c =>
      cases c with
      | trigger task =>
          rw [move, command, hp]
          exact (sameSetup_dispatch l task .manual).state
      | tasks => rw [move, command, hp]; rfl
      | pause => rw [move, command, hp]; rfl
      | resume => rw [move, command, hp]; rfl
      | shutdown =>
          rw [move, command, hp] at hlive
          exact absurd hlive (l.shutDown_stopped now).2

/-- **The last pause or resume of a run decides**, as long as the loop goes on. -/
theorem state_after {ms : List Move} (hlive : (l.after ms).phase = .live) :
    (l.after ms).state = (ms.filterMap Move.asks?).getLastD l.state := by
  induction ms generalizing l with
  | nil => rfl
  | cons m ms ih =>
      rw [after_cons] at hlive ⊢
      rw [ih hlive, state_move (live_of_after hlive), List.filterMap_cons]
      cases m.asks? with
      | none => rfl
      | some s => rw [List.getLastD_cons, Option.getD_some]

end Loop

/-! ### The account of a run -/

/-- **The account of a run** of a scheduler that was asked to register `tasks`, move by move and as
a whole. -/
structure Accounted (overlap : OverlapPolicy) (tasks : List (String × Timer)) (l : Loop)
    (ms : List Move) : Prop where
  /-- Without a shutdown, and with timers that answer, the loop goes on. -/
  goesOn : (∀ name timer, tasks.lookup name = some timer → timer.Answers) →
    (∀ m ∈ ms, ∀ now, m ≠ .command now .shutdown) → (l.after ms).GoesOn
  /-- The last pause or resume decides the state; before the first one the scheduler is running. -/
  state : (l.after ms).phase = .live → (l.after ms).state = stateAsked ms
  /-- Due at a tick are the tasks whose next instant the clock has reached. -/
  due : ∀ now due rs, advanceDue now (l.after ms).registrations = .ok (due, rs) → ∀ task,
    task ∈ due ↔ ∃ r ∈ (l.after ms).registrations, r.name = task ∧
      ∃ i, r.nextFire = some i ∧ i ≤ now
  /-- At a tick while the scheduler is running a due task produces one event, any other none. -/
  tick : (l.after ms).phase = .live → (l.after ms).state = .running → ∀ now due rs,
    advanceDue now (l.after ms).registrations = .ok (due, rs) → ∀ task,
      (task ∈ due → ∃ e, DueEvent overlap (l.history ms) task e ∧
        (Effect.events ((l.after ms).tick now).2).filter (fun e => e.task == task) = [e]) ∧
      (task ∉ due →
        (Effect.events ((l.after ms).tick now).2).filter (fun e => e.task == task) = [])
  /-- A tick while it is paused tells nothing. -/
  paused : (l.after ms).state ≠ .running → ∀ now, Effect.events ((l.after ms).tick now).2 = []
  /-- Every tick moves the timers, paused or not, and nothing else does. -/
  timers : (l.after ms).phase = .live →
    advanceAll (ticks ms) l.registrations = .ok (l.after ms).registrations
  /-- What was due at a tick, paused or not, is not due again, so it is not made up for. -/
  passed : (l.after ms).phase = .live → ∀ r ∈ (l.after ms).registrations, r.timer.Increasing →
    ∀ i, r.nextFire = some i → ∀ now ∈ ticks ms, now < i
  /-- A trigger has one of three answers. -/
  trigger : (l.after ms).phase = .live → ∀ now task,
    TriggerAnswer overlap (task ∈ tasks.map Prod.fst) (l.history ms) task
      ((l.after ms).command now (.trigger task)).1
      (Effect.events ((l.after ms).command now (.trigger task)).2.2)
  /-- Every other command tells nothing. -/
  silent : ∀ now c, (∀ task, c ≠ .trigger task) →
    Effect.events ((l.after ms).command now c).2.2 = []
  /-- The end of an unfinished fire is told by one event, any other end by none. -/
  finish : ∀ id outcome,
    (∀ task, (task, id) ∈ openFires (l.history ms) → ∃ e, outcome.Tells task id e ∧
      Effect.events ((l.after ms).finish id outcome).2 = [e]) ∧
    ((∀ task, (task, id) ∉ openFires (l.history ms)) →
      Effect.events ((l.after ms).finish id outcome).2 = [])
  /-- No two fires have the same identifier. -/
  distinct : ((firesOf (l.history ms)).map Prod.snd).Nodup
  /-- A fire that has ended has one event that tells of its end, after the one of its begin. -/
  ended : ∀ before id outcome later task, ms = before ++ .finish id outcome :: later →
    (task, id) ∈ openFires (l.history before) → ∃ a source b e c, outcome.Tells task id e ∧
      l.history ms = a ++ .fired task id source :: (b ++ e :: c) ∧
      (l.history ms).filter (fun e => decide (e.end? = some id)) = [e]
  /-- An event that tells of an end comes from the end of a fire that had begun. -/
  terminal : ∀ e ∈ l.history ms, ∀ id, e.end? = some id → ∃ before outcome later task,
    ms = before ++ .finish id outcome :: later ∧
      (task, id) ∈ openFires (l.history before) ∧ outcome.Tells task id e
  /-- Without overlap a fire ends before the next fire of its task begins. -/
  sequential : overlap = .skip → ∀ a b c task id id' source source',
    l.history ms = a ++ .fired task id source :: b ++ .fired task id' source' :: c →
      ∃ e ∈ b, e.end? = some id

/-- A tick of a scheduler that is not running tells nothing. -/
theorem Loop.events_tick_of_not_running {l : Loop} (h : l.state ≠ .running) (now : Instant) :
    Effect.events (l.tick now).2 = [] := by
  by_cases hp : l.phase = .live
  · cases ha : advanceDue now l.registrations with
    | error b => simp [tick, hp, ha]
    | ok p =>
        have hd : l.dispatched p.1 = [] := if_neg h
        rw [Loop.tick_of_advanceDue hp ha, hd]
        rfl
  · simp [tick, hp]

/-- A command other than a trigger tells nothing. -/
theorem Loop.events_command (l : Loop) (now : Duration) {c : Command}
    (hc : ∀ task, c ≠ .trigger task) : Effect.events (l.command now c).2.2 = [] := by
  have hm := l.moved (.command now c)
  change Moved l (.command now c) (l.command now c).2.1 (Effect.events (l.command now c).2.2) at hm
  generalize (l.command now c).2.1 = l', Effect.events (l.command now c).2.2 = es at hm
  cases hm with
  | triggered => exact absurd rfl (hc _)
  | quiet => rfl

/-- The end of a fire is told by one event if the fire was unfinished, and not at all otherwise. -/
theorem Ledger.events_finish {l : Loop} {es : List Event} (h : Ledger l es) (id : FireId)
    (outcome : Outcome) :
    (∀ task, (task, id) ∈ openFires es →
      Effect.events (l.finish id outcome).2 = [outcome.event task id]) ∧
    ((∀ task, (task, id) ∉ openFires es) → Effect.events (l.finish id outcome).2 = []) := by
  rw [← h.table]
  rcases l.finish_cases id outcome with ⟨hnone, hf⟩ | ⟨task, hm, _, he⟩
  · exact ⟨fun task hm => absurd hm (hnone task), fun _ => by rw [hf]; rfl⟩
  · refine ⟨fun task' hm' => ?_, fun hnone => absurd hm (hnone task)⟩
    -- an identifier belongs to one fire, so to one task
    have hfires : ∀ {t}, (t, id) ∈ l.unfinished → (t, id) ∈ firesOf es := fun ht =>
      (mem_openFires.1 (h.table ▸ ht)).1
    have heq := List.inj_on_of_nodup_map h.history.nodup_fires (hfires hm) (hfires hm') rfl
    rw [he, (Prod.mk.inj heq).1]

variable {overlap : OverlapPolicy} {timeout : Duration} {tasks : List (String × Timer)}
  {start : Instant} {l : Loop}

/-- An end is told only when an unfinished fire ends. -/
theorem Loop.exists_finish_of_end (h : Loop.launch overlap timeout tasks start = .ok l)
    {ms : List Move} {e : Event} {id : FireId} (he : e ∈ l.history ms) (hid : e.end? = some id) :
    ∃ before outcome later task, ms = before ++ .finish id outcome :: later ∧
      (task, id) ∈ openFires (l.history before) ∧ e = outcome.event task id := by
  obtain ⟨before, m, later, rfl, hm⟩ := exists_move_of_mem_history he
  obtain ⟨outcome, task, rfl, hopen, rfl⟩ := end_of_move hm hid
  rw [(ledger_of_launch h before).table] at hopen
  exact ⟨before, outcome, later, task, rfl, hopen, rfl⟩

/-- The end of an unfinished fire stands in the history after the begin of the fire. -/
theorem Loop.history_of_finish (h : Loop.launch overlap timeout tasks start = .ok l)
    {before : List Move} {task : String} {id : FireId}
    (hopen : (task, id) ∈ openFires (l.history before)) (outcome : Outcome) (later : List Move) :
    ∃ a source b c, l.history (before ++ .finish id outcome :: later) =
      a ++ .fired task id source :: (b ++ outcome.event task id :: c) := by
  obtain ⟨source, hm⟩ := mem_firesOf.1 (mem_openFires.1 hopen).1
  obtain ⟨a, b, hab⟩ := List.append_of_mem hm
  have hend := ((ledger_of_launch h before).events_finish id outcome).1 task hopen
  refine ⟨a, source, b, ((l.after before).finish id outcome).1.history later, ?_⟩
  rw [history_append, history_cons]
  change l.history before ++ (Effect.events ((l.after before).finish id outcome).2 ++ _) = _
  rw [hend, hab, List.append_assoc]
  rfl

/-- **Every run is accounted for**, under both policies. -/
theorem event_accounting (h : Loop.launch overlap timeout tasks start = .ok l) (ms : List Move) :
    Accounted overlap tasks l ms := by
  have hl := Loop.launched h
  have hled := ledger_of_launch h ms
  have hpol : (l.after ms).overlap = overlap := overlap_of_launch h ms
  have hhist : History overlap (l.history ms) := hpol ▸ hled.history
  refine
    { goesOn := fun hanswers hms => Loop.goesOn_of_launch h hanswers hms
      state := fun hlive => ?_
      due := fun now due rs ha task => by simp only [mem_due_iff ha, Registration.due_iff]
      tick := fun hlive hrun now due rs ha task => ?_
      paused := fun hrun now => Loop.events_tick_of_not_running hrun now
      timers := fun hlive => Loop.advanceAll_after hlive
      passed := fun hlive r hr inc => ?_
      trigger := fun hlive now task => ?_
      silent := fun now c hc => Loop.events_command _ now hc
      finish := fun id outcome => ?_
      distinct := hhist.nodup_fires
      ended := ?_
      terminal := ?_
      sequential := ?_ }
  · rw [Loop.state_after hlive, hl.state]
    rfl
  · rw [← hpol]
    refine hled.events_tick ?_ hlive hrun ha task
    rw [Loop.taskNames_after]
    exact hl.nodup_taskNames
  · obtain ⟨k, hk⟩ := (Loop.onSchedule_of_launch hl).after hlive r hr inc
    exact hk.ahead
  · have ht := hled.triggerAnswer hlive now task
    rwa [hpol, Loop.taskNames_after, hl.mem_taskNames] at ht
  · obtain ⟨hopen, hnone⟩ := hled.events_finish id outcome
    exact ⟨fun task hm => ⟨_, outcome.tells_event task id, hopen task hm⟩, hnone⟩
  · rintro before id outcome later task rfl hopen
    obtain ⟨a, source, b, c, heq⟩ := Loop.history_of_finish h hopen outcome later
    refine ⟨a, source, b, _, c, outcome.tells_event task id, heq, ?_⟩
    refine hhist.filter_end?_eq ?_ (Outcome.end?_event outcome task id)
    rw [heq]
    simp
  · intro e he id hid
    obtain ⟨before, outcome, later, task, hms, hopen, rfl⟩ := Loop.exists_finish_of_end h he hid
    exact ⟨before, outcome, later, task, hms, hopen, outcome.tells_event task id⟩
  · rintro rfl a b c task id id' source source' heq
    rw [heq] at hhist
    exact hhist.end_between_fires

/-- The first tick takes the task of the scheduler to its next second. -/
theorem Loop.advanceDue_auditing (overlap : OverlapPolicy) (timeout : Duration) :
    advanceDue .epoch (auditing overlap timeout).registrations =
      .ok (["audit"], [⟨"audit", secondly, some ⟨1000000000, by decide, by decide⟩⟩]) := by
  have hdue : Instant.epoch ≤ Instant.epoch := Int.le_refl _
  have hnext : secondly.nextAfter .epoch = .ok (some ⟨1000000000, by decide, by decide⟩) := rfl
  have hahead : Instant.epoch < ⟨1000000000, by decide, by decide⟩ := by decide
  simp only [advanceDue, auditing, bind, Except.bind, pure, Except.pure, if_pos hdue, hnext]
  rw [catchUp, if_pos hahead]

/-- The timer of the task moves forward, whatever happens to the scheduler. -/
theorem Loop.increasing_of_auditing {overlap : OverlapPolicy} {timeout : Duration} {ms : List Move}
    {r : Registration} (hr : r ∈ ((auditing overlap timeout).after ms).registrations) :
    r.timer.Increasing := by
  have hroster : (r.name, r.timer) ∈ ((auditing overlap timeout).after ms).roster :=
    List.mem_map_of_mem hr
  rw [roster_after] at hroster
  have htimer : r.timer = secondly := (Prod.mk.inj (List.mem_singleton.1 hroster)).2
  rw [htimer]
  exact Timer.increasing_interval _

/-- A task that fires, is triggered in vain while it runs, misses an instant while it is paused, and
panics in the end: nothing is told of the instant that it missed, neither then nor later. -/
theorem event_accounting_of_paused_tick :
    let l := Loop.auditing .skip (.ofSeconds 30)
    let before : List Move :=
      [.tick .epoch, .command ⟨0⟩ (.trigger "audit"), .command ⟨0⟩ .pause]
    let missed : Instant := ⟨1500000000, by decide, by decide⟩
    let ms := before ++ [.tick missed, .finish ⟨1⟩ (.panicked none), .command ⟨0⟩ .resume]
    Loop.launch .skip (.ofSeconds 30) [("audit", Loop.secondly)] .epoch = .ok l ∧
      Accounted .skip [("audit", Loop.secondly)] l ms ∧
      (l.after before).GoesOn ∧ (l.after before).state = .paused ∧
      (∃ due rs, advanceDue missed (l.after before).registrations = .ok (due, rs) ∧
        "audit" ∈ due) ∧
      Effect.events ((l.after before).tick missed).2 = [] ∧
      (l.after ms).GoesOn ∧ (l.after ms).state = .running ∧
      ∀ r ∈ (l.after ms).registrations, ∀ i, r.nextFire = some i → missed < i := by
  intro l before missed ms
  have h := Loop.launch_auditing .skip (.ofSeconds 30)
  have hbefore := event_accounting h before
  have hms := event_accounting h ms
  have hon : (l.after before).GoesOn :=
    hbefore.goesOn Loop.answers_of_auditing (by simp [before])
  have hon' : (l.after ms).GoesOn := hms.goesOn Loop.answers_of_auditing (by simp [ms, before])
  have hpaused : (l.after before).state = .paused := hbefore.state hon.1
  -- the tick at the epoch takes the task to the first second, which the clock then passes
  have hfirst : (l.after before).registrations =
      [⟨"audit", Loop.secondly, some ⟨1000000000, by decide, by decide⟩⟩] := by
    have hmoved : advanceAll [.epoch] l.registrations = .ok (l.after before).registrations :=
      hbefore.timers hon.1
    rw [advanceAll, Loop.advanceDue_auditing] at hmoved
    exact (Except.ok.inj hmoved).symm
  obtain ⟨due, rs, ha⟩ := hon.2 missed
  have hdue : "audit" ∈ due := by
    refine (hbefore.due missed due rs ha "audit").2 ?_
    rw [hfirst]
    exact ⟨_, List.mem_singleton_self _, rfl, _, rfl, by decide⟩
  have hquiet : Effect.events ((l.after before).tick missed).2 = [] :=
    hbefore.paused (by rw [hpaused]; decide) missed
  have hpassed : ∀ r ∈ (l.after ms).registrations, ∀ i, r.nextFire = some i → missed < i := by
    intro r hr i hi
    have hticked : missed ∈ ticks ms := by simp [ms, before, ticks, Move.clock?]
    exact hms.passed hon'.1 r hr (Loop.increasing_of_auditing hr) i hi missed hticked
  exact ⟨h, hms, hon, hpaused, ⟨due, rs, ha, hdue⟩, hquiet, hon', hms.state hon'.1, hpassed⟩

end NodeSidecar
