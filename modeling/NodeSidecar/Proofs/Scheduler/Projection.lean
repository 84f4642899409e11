/-
**A scheduler as one of its tasks sees it.**

All tasks share the loop, its table of fires and its identifiers.  What one task can see of a run is
when it is due, the events about it, and the answers to its triggers.  This module compares a
scheduler with one in which the task is alone: the same ticks, the same commands but the triggers of
other tasks, and the same ends of the task's own fires, whose identifiers are numbered anew.  The
two stay in step as long as no timer of another task ends the loop.

Main definitions:

* `idsOf`, `renumber` — the fires of a task, and their numbers;
* `Sight`, `Loop.trace` — what a task sees, move by move;
* `Move.alone` — a move as it is when the task is alone;
* `Loop.Derails` — a tick at which the timer of another task ends the loop;
* `Mirror`, `Mirror.Kept` — a scheduler and the one in which the task is alone, in step, and a move
  that keeps them so.

Main results:

* `advanceDue_filter` — the timers of some tasks move as they do alone;
* `Mirror.dispatchDue`, `Mirror.finish`, `Mirror.tick`, `Mirror.command` — what keeps the two in
  step;
* `Mirror.move` — **every move but a derailing tick keeps them in step**.
-/

import NodeSidecar.Proofs.Scheduler.Ledger
import NodeSidecar.Proofs.Scheduler.Stopping

set_option autoImplicit false

namespace NodeSidecar

/-! ### The fires of a task -/

/-- The identifiers of the fires of a task, in order. -/
def idsOf (task : String) (es : List Event) : List FireId :=
  ((firesOf es).filter fun f => f.1 == task).map Prod.snd

@[simp] theorem idsOf_append (task : String) (es fs : List Event) :
    idsOf task (es ++ fs) = idsOf task es ++ idsOf task fs := by
  simp [idsOf, List.filter_append]

theorem idsOf_fired (task : String) (id : FireId) (source : FireSource) :
    idsOf task [.fired task id source] = [id] := by
  simp [idsOf]

theorem idsOf_of_fires_nil {task : String} {es : List Event} (h : firesOf es = []) :
    idsOf task es = [] := by
  rw [idsOf, h]
  rfl

theorem idsOf_fired_of_ne {task name : String} (h : name ≠ task) (id : FireId)
    (source : FireSource) : idsOf task [.fired name id source] = [] := by
  simp [idsOf, h]

theorem mem_idsOf {task : String} {es : List Event} {id : FireId} :
    id ∈ idsOf task es ↔ (task, id) ∈ firesOf es := by
  rw [idsOf, List.mem_map]
  constructor
  · rintro ⟨⟨name, _⟩, hf, rfl⟩
    obtain ⟨hmem, hname⟩ := List.mem_filter.1 hf
    obtain rfl : name = task := by simpa using hname
    exact hmem
  · intro h
    exact ⟨(task, id), List.mem_filter.2 ⟨h, by simp⟩, rfl⟩

/-- The number of an identifier among others, as an identifier. -/
def renumber (ids : List FireId) (id : FireId) : FireId := ⟨ids.idxOf id + 1⟩

/-- The numbers of different identifiers are different. -/
theorem renumber_inj {ids : List FireId} {id id' : FireId} (h : id ∈ ids)
    (heq : renumber ids id = renumber ids id') : id = id' := by
  have hidx : ids.idxOf id + 1 = ids.idxOf id' + 1 := FireId.mk.inj heq
  exact (List.idxOf_inj h).1 (Nat.succ.inj hidx)

/-- The number of an identifier that is new tells how many came before. -/
theorem renumber_next {ids before : List FireId} {id : FireId} (hnd : ids.Nodup)
    (h : before ++ [id] <+: ids) : renumber ids id = ⟨before.length + 1⟩ := by
  obtain ⟨after, rfl⟩ := h
  have hnot : id ∉ before := fun hmem => by
    have hdisjoint := List.disjoint_of_nodup_append (List.nodup_append.1 hnd).1
    exact hdisjoint hmem List.mem_cons_self
  rw [renumber, List.append_assoc, List.idxOf_append_of_notMem hnot, List.singleton_append,
    List.idxOf_cons_self, Nat.add_zero]

/-! ### What a task sees -/

/-- An event with other identifiers. -/
def Event.rename (ρ : FireId → FireId) : Event → Event
  | .fired task id source => .fired task (ρ id) source
  | .completed task id duration => .completed task (ρ id) duration
  | .failed task id error => .failed task (ρ id) error
  | .skipped task => .skipped task

@[simp] theorem Event.rename_event (ρ : FireId → FireId) (o : Outcome) (task : String)
    (id : FireId) : (o.event task id).rename ρ = o.event task (ρ id) := by
  rcases o with _ | _ | (_ | _) <;> rfl

@[simp] theorem Outcome.task_event (o : Outcome) (task : String) (id : FireId) :
    (o.event task id).task = task := by
  rcases o with _ | _ | (_ | _) <;> rfl

/-- The answer of a reply to a trigger, if there is a loop that answers. -/
def Reply.answer? : Reply → Option (Except SchedulerError FireId)
  | .fired id => some (.ok id)
  | .failed (.channelError _) => none
  | .failed e => some (.error e)
  | _ => none

/-- The events about a task. -/
def eventsAbout (task : String) (es : List Event) : List Event := es.filter fun e => e.task == task

@[simp] theorem eventsAbout_append (task : String) (es fs : List Event) :
    eventsAbout task (es ++ fs) = eventsAbout task es ++ eventsAbout task fs :=
  List.filter_append ..

/-- **Something that a task sees**: a tick at which it is due, an event about it, or the answer to a
trigger of it, which is none when there is no loop to answer. -/
inductive Sight where
  | due (now : Instant)
  | event (e : Event)
  | answer (a : Option (Except SchedulerError FireId))

/-- A sight with other identifiers. -/
def Sight.rename (ρ : FireId → FireId) : Sight → Sight
  | .due now => .due now
  | .event e => .event (e.rename ρ)
  | .answer a => .answer (a.map (Except.map ρ))

namespace Loop

/-- The tick at which a task is due. -/
def dueSights (task : String) (l : Loop) : Move → List Sight
  | .tick now =>
    if l.phase = .live ∧ l.registrations.any (fun r => r.name == task && r.due now) = true then
      [.due now]
    else []
  | _ => []

/-- The answer to a trigger of a task. -/
def answerSights (task : String) (l : Loop) : Move → List Sight
  | .command now (.trigger name) =>
    if name = task then [.answer (l.command now (.trigger name)).1.answer?] else []
  | _ => []

/-- What a task sees of a move. -/
def sights (task : String) (l : Loop) (m : Move) : List Sight :=
  l.dueSights task m ++ (eventsAbout task (Effect.events (l.move m).2)).map .event ++
    l.answerSights task m

/-- **What a task sees of a run.** -/
def trace (task : String) (l : Loop) : List Move → List Sight
  | [] => []
  | m :: ms => l.sights task m ++ (l.move m).1.trace task ms

theorem trace_append (task : String) (l : Loop) (ms ns : List Move) :
    l.trace task (ms ++ ns) = l.trace task ms ++ (l.after ms).trace task ns := by
  induction ms generalizing l with
  | nil => rfl
  | cons m ms ih =>
      rw [List.cons_append, trace, trace, ih, List.append_assoc]
      rfl

/-- What is told about a task. -/
def status? (l : Loop) (task : String) : Option TaskStatus :=
  l.statuses.find? fun s => s.name == task

/-- **A tick at which the loop breaks down, but not by the timer of the task.** -/
def Derails (task : String) (l : Loop) (now : Instant) : Prop :=
  l.phase = .live ∧ (∃ b, advanceDue now l.registrations = .error b) ∧
    ∃ p, advanceDue now (l.registrations.filter fun r => r.name == task) = .ok p

end Loop

/-- **A move as it is when a task is alone**: triggers of other tasks and ends of their fires do not
happen, and the ends of the task's own fires name them by their numbers. -/
def Move.alone (task : String) (ids : List FireId) : Move → Option Move
  | .tick now => some (.tick now)
  | .command now (.trigger name) =>
    if name = task then some (.command now (.trigger name)) else none
  | .command now c => some (.command now c)
  | .finish id outcome => if id ∈ ids then some (.finish (renumber ids id) outcome) else none
  | .look now => some (.look now)

section Commands

variable {task : String} {c : Command}

/-- A command that is no trigger is the same when a task is alone, -/
theorem Move.alone_command {ids : List FireId} {now : Duration} (hc : ∀ name, c ≠ .trigger name) :
    (Move.command now c).alone task ids = some (.command now c) := by
  cases c with
  | trigger name => exact absurd rfl (hc name)
  | tasks => rfl
  | pause => rfl
  | resume => rfl
  | shutdown => rfl

/-- and its answer is not for a task. -/
theorem Loop.answerSights_command (l : Loop) {now : Duration} (hc : ∀ name, c ≠ .trigger name) :
    l.answerSights task (.command now c) = [] := by
  cases c with
  | trigger name => exact absurd rfl (hc name)
  | tasks => rfl
  | pause => rfl
  | resume => rfl
  | shutdown => rfl

end Commands

/-! ### Timers of some tasks -/

/-- A registration moved past the clock, if it is due. -/
def Registration.advance (now : Instant) (r : Registration) :
    Except Cron.Breakdown Registration :=
  match r.nextFire with
  | none => .ok r
  | some scheduled =>
    if scheduled ≤ now then do
      let (next, _) ← catchUp r.timer now (← r.timer.nextAfter scheduled) 0
      return { r with nextFire := next }
    else .ok r

theorem Registration.name_of_advance {now : Instant} {r r' : Registration}
    (h : r.advance now = .ok r') : r'.name = r.name := by
  unfold Registration.advance at h
  split at h
  · obtain rfl := Except.ok.inj h
    rfl
  · split at h
    · simp only [bind, Except.bind, pure, Except.pure] at h
      split at h
      · cases h
      · split at h
        · cases h
        · obtain rfl := Except.ok.inj h
          rfl
    · obtain rfl := Except.ok.inj h
      rfl

/-- Registrations are moved one by one. -/
theorem advanceDue_cons (now : Instant) (r : Registration) (rs : List Registration) :
    advanceDue now (r :: rs) = (r.advance now).bind fun r' => (advanceDue now rs).map fun p =>
      (if r.due now then r.name :: p.1 else p.1, r' :: p.2) := by
  by_cases hd : r.due now = true
  · obtain ⟨scheduled, hs, hle⟩ := Registration.due_iff.1 hd
    simp only [advanceDue, Registration.advance, bind, Except.bind, pure, Except.pure, hs,
      if_pos hle, if_pos hd]
    cases r.timer.nextAfter scheduled with
    | error b => rfl
    | ok first =>
        simp only
        cases catchUp r.timer now first 0 with
        | error b => rfl
        | ok p => cases advanceDue now rs <;> rfl
  · rw [advanceDue_cons_of_not_due (by simpa using hd)]
    have hadvance : r.advance now = .ok r := by
      unfold Registration.advance
      unfold Registration.due at hd
      cases hn : r.nextFire with
      | none => rfl
      | some scheduled =>
          have hle : ¬ scheduled ≤ now := by simpa [hn] using hd
          simp only [if_neg hle]
    simp only [hadvance, Except.bind, if_neg hd]

/-- **The timers of some tasks move as they do alone.** -/
theorem advanceDue_filter {now : Instant} {rs rs' : List Registration} {due : List String}
    (h : advanceDue now rs = .ok (due, rs')) (keep : String → Bool) :
    advanceDue now (rs.filter fun r => keep r.name) =
      .ok (due.filter keep, rs'.filter fun r => keep r.name) := by
  induction rs generalizing due rs' with
  | nil =>
      obtain ⟨rfl, rfl⟩ : [] = due ∧ [] = rs' := by simpa [advanceDue] using h
      rfl
  | cons r rs ih =>
      rw [advanceDue_cons] at h
      cases hr : r.advance now with
      | error b => simp [hr, Except.bind] at h
      | ok r' =>
          cases hrest : advanceDue now rs with
          | error b => simp [hr, hrest, Except.bind, Except.map] at h
          | ok p =>
              obtain ⟨names, rest⟩ := p
              simp only [hr, hrest, Except.bind, Except.map, Except.ok.injEq,
                Prod.mk.injEq] at h
              obtain ⟨rfl, rfl⟩ := h
              have hname := Registration.name_of_advance hr
              have htail := ih hrest
              by_cases hkeep : keep r.name = true
              · have hkeep' : keep r'.name = true := by rwa [hname]
                rw [List.filter_cons_of_pos (p := fun r : Registration => keep r.name) hkeep,
                  advanceDue_cons, hr, htail,
                  List.filter_cons_of_pos (p := fun r : Registration => keep r.name) hkeep']
                by_cases hd : r.due now = true
                · simp [hd, hkeep, Except.bind, Except.map]
                · simp [hd, Except.bind, Except.map]
              · have hkeep' : ¬ keep r'.name = true := by rwa [hname]
                rw [List.filter_cons_of_neg (p := fun r : Registration => keep r.name) hkeep, htail,
                  List.filter_cons_of_neg (p := fun r : Registration => keep r.name) hkeep']
                by_cases hd : r.due now = true
                · simp [hd, hkeep]
                · simp [hd]

/-! ### Moves of the loop -/

namespace Loop

variable {l : Loop}

theorem tick_of_error {now : Instant} {b : Cron.Breakdown} (hp : l.phase = .live)
    (h : advanceDue now l.registrations = .error b) :
    l.tick now = ({ l with phase := .ended }, []) := by
  simp [tick, hp, h]

/-- A loop that goes on answers a trigger with the outcome of its dispatch. -/
theorem command_trigger (hp : l.phase = .live) (now : Duration) (task : String) :
    l.command now (.trigger task) = (match (l.dispatch task .manual).1 with
      | .ok id => .fired id
      | .error e => .failed e, (l.dispatch task .manual).2) := by
  obtain ⟨registrations, overlap, timeout, state, fires, nextId, phase⟩ := l
  obtain rfl : phase = .live := hp
  rfl

end Loop

/-! ### In step -/

/-- **A scheduler and the one in which a task is alone, in step**: the task has the same timer and
the same state of both loops, and its unfinished fires are the same up to their numbers in all
events of the run. -/
structure Mirror (task : String) (total es : List Event) (l s : Loop) : Prop where
  ledger : Ledger l es
  registrations : s.registrations = l.registrations.filter fun r => r.name == task
  overlap : s.overlap = l.overlap
  state : s.state = l.state
  live : s.phase = .live ↔ l.phase = .live
  table : s.unfinished = (l.unfinished.filter fun f => f.1 == task).map fun f =>
    (f.1, renumber (idsOf task total) f.2)
  nextId : s.nextId = (idsOf task es).length + 1

namespace Mirror

variable {task : String} {total es : List Event} {l s : Loop}

theorem mem_taskNames (h : Mirror task total es l s) : task ∈ s.taskNames ↔ task ∈ l.taskNames := by
  rw [Loop.taskNames, Loop.taskNames, h.registrations, List.mem_map, List.mem_map]
  constructor
  · rintro ⟨r, hr, hname⟩
    exact ⟨r, (List.mem_filter.1 hr).1, hname⟩
  · rintro ⟨r, hr, hname⟩
    exact ⟨r, List.mem_filter.2 ⟨hr, by simpa using hname⟩, hname⟩

/-- The task has as many unfinished fires. -/
theorem inFlight (h : Mirror task total es l s) : s.inFlight task = l.inFlight task := by
  rw [s.inFlight_eq_unfinished, l.inFlight_eq_unfinished, h.table, List.filter_map, List.length_map,
    List.filter_filter]
  simp

/-- An unfinished fire of the task is one of its fires so far. -/
theorem mem_idsOf (h : Mirror task total es l s) {id : FireId} (hid : (task, id) ∈ l.unfinished) :
    id ∈ idsOf task es := by
  rw [h.ledger.table] at hid
  exact NodeSidecar.mem_idsOf.2 (mem_openFires.1 hid).1

/-- An unfinished fire of the task when it is alone. -/
theorem mem_unfinished (h : Mirror task total es l s) {name : String} {id : FireId} :
    (name, id) ∈ s.unfinished ↔ name = task ∧
      ∃ id', (task, id') ∈ l.unfinished ∧ renumber (idsOf task total) id' = id := by
  rw [h.table, List.mem_map]
  constructor
  · rintro ⟨⟨other, id'⟩, hf, heq⟩
    obtain ⟨hmem, hname⟩ := List.mem_filter.1 hf
    obtain rfl : other = task := by simpa using hname
    obtain ⟨rfl, rfl⟩ := Prod.mk.inj heq
    exact ⟨rfl, id', hmem, rfl⟩
  · rintro ⟨rfl, id', hmem, rfl⟩
    exact ⟨(name, id'), List.mem_filter.2 ⟨hmem, by simp⟩, rfl⟩

/-- The next identifier of the one is the number of the next identifier of the other. -/
theorem renumber_nextId (h : Mirror task total es l s)
    (hnd : ((firesOf total).map Prod.snd).Nodup) {source : FireSource}
    (htotal : es ++ [.fired task ⟨l.nextId⟩ source] <+: total) :
    renumber (idsOf task total) ⟨l.nextId⟩ = ⟨s.nextId⟩ := by
  rw [h.nextId]
  refine renumber_next ?_ ?_
  · exact hnd.sublist ((List.filter_sublist).map _)
  · obtain ⟨rest, rfl⟩ := htotal
    rw [idsOf_append, idsOf_append, idsOf_fired]
    exact List.prefix_append _ _

/-- The two stay in step when the same timers are moved. -/
theorem setRegistrations (h : Mirror task total es l s) (rs : List Registration) :
    Mirror task total es { l with registrations := rs }
      { s with registrations := rs.filter fun r => r.name == task } :=
  ⟨h.ledger.congr rfl rfl rfl, rfl, h.overlap, h.state, h.live, h.table, h.nextId⟩

/-- The two stay in step when finished fires are dropped from the tables. -/
theorem cleanUp (h : Mirror task total es l s) : Mirror task total es l.cleanUp s.cleanUp := by
  refine ⟨h.ledger.congr rfl (Loop.unfinished_cleanUp l) rfl, h.registrations, h.overlap, h.state,
    h.live, ?_, h.nextId⟩
  rw [Loop.unfinished_cleanUp, Loop.unfinished_cleanUp]
  exact h.table

/-- The two stay in step when both loops get to a phase that is not live. -/
theorem quiet (h : Mirror task total es l s) {l' s' : Loop} (hl : Loop.Quiet l l')
    (hs : Loop.Quiet s s') (hstate : s'.state = l'.state)
    (hlive : s'.phase = .live ↔ l'.phase = .live) : Mirror task total es l' s' := by
  refine ⟨h.ledger.congr hl.overlap hl.unfinished hl.nextId, ?_, ?_, hstate, hlive, ?_, ?_⟩
  · rw [hs.registrations, hl.registrations, h.registrations]
  · rw [hs.overlap, hl.overlap, h.overlap]
  · rw [hs.unfinished, hl.unfinished, h.table]
  · rw [hs.nextId, h.nextId]

/-! ### Dispatches -/

/-- **The dispatch of the task** has the same answer and the same events in both. -/
theorem dispatch_self (h : Mirror task total es l s)
    (hnd : ((firesOf total).map Prod.snd).Nodup) (source : FireSource)
    (htotal : es ++ Effect.events (l.dispatch task source).2.2 <+: total) :
    Mirror task total (es ++ Effect.events (l.dispatch task source).2.2)
        (l.dispatch task source).2.1 (s.dispatch task source).2.1 ∧
      eventsAbout task (Effect.events (s.dispatch task source).2.2) =
        (eventsAbout task (Effect.events (l.dispatch task source).2.2)).map
          (Event.rename (renumber (idsOf task total))) ∧
      (s.dispatch task source).1 =
        (l.dispatch task source).1.map (renumber (idsOf task total)) := by
  have hledger := h.ledger.dispatch task source
  have hboth : (s.overlap = .skip ∧ 0 < s.inFlight task) ↔
      (l.overlap = .skip ∧ 0 < l.inFlight task) := by
    rw [h.overlap, h.inFlight]
  rcases l.dispatch_cases task source with ⟨hn, hd⟩ | ⟨hr, ho, fx, hd, hfx, _⟩ | ⟨hr, ho, hd⟩
  · rcases s.dispatch_cases task source with ⟨_, hd'⟩ | ⟨hr', _⟩ | ⟨hr', _⟩
    · rw [hd, hd']
      refine ⟨?_, rfl, rfl⟩
      rw [Effect.events_nil, List.append_nil]
      exact h
    · exact absurd (h.mem_taskNames.1 hr') hn
    · exact absurd (h.mem_taskNames.1 hr') hn
  · rcases s.dispatch_cases task source with ⟨hn', _⟩ | ⟨_, _, gx, hd', hgx, _⟩ | ⟨_, ho', _⟩
    · exact absurd (h.mem_taskNames.2 hr) hn'
    · rw [hd] at hledger ⊢
      rw [hd']
      refine ⟨⟨hledger, h.registrations, h.overlap, h.state, h.live, h.table, ?_⟩, ?_, rfl⟩
      · have hnone : idsOf task (Effect.events fx) = [] := by
          rw [hfx]
          split
          · rfl
          · rfl
        rw [h.nextId, idsOf_append, hnone, List.append_nil]
      · rw [hgx, hfx]
        split
        · simp [eventsAbout, Event.rename, Event.task]
        · rfl
    · exact absurd (hboth.2 ho) ho'
  · rcases s.dispatch_cases task source with ⟨hn', _⟩ | ⟨_, ho', _⟩ | ⟨_, _, hd'⟩
    · exact absurd (h.mem_taskNames.2 hr) hn'
    · exact absurd (hboth.1 ho') ho
    · rw [hd] at hledger htotal ⊢
      rw [hd']
      have hnext := h.renumber_nextId hnd htotal
      refine ⟨⟨hledger, h.registrations, h.overlap, h.state, h.live, ?_, ?_⟩, ?_, ?_⟩
      · rw [Loop.unfinished_withFire, Loop.unfinished_withFire, h.table, List.filter_append,
          List.map_append, ← hnext]
        simp
      · change s.nextId + 1 = _
        rw [h.nextId, idsOf_append, Effect.events_cons_event, Effect.events_nil, idsOf_fired,
          List.length_append]
        rfl
      · simp [eventsAbout, Event.rename, Event.task, hnext]
      · rw [Except.map, hnext]

/-- **The dispatch of another task** is not seen. -/
theorem dispatch_other (h : Mirror task total es l s) {name : String} (hne : name ≠ task)
    (source : FireSource) :
    Mirror task total (es ++ Effect.events (l.dispatch name source).2.2)
        (l.dispatch name source).2.1 s ∧
      eventsAbout task (Effect.events (l.dispatch name source).2.2) = [] := by
  have hledger := h.ledger.dispatch name source
  rcases l.dispatch_cases name source with ⟨_, hd⟩ | ⟨_, _, fx, hd, hfx, _⟩ | ⟨_, _, hd⟩
  · rw [hd] at hledger ⊢
    refine ⟨?_, rfl⟩
    rw [Effect.events_nil, List.append_nil]
    exact h
  · rw [hd] at hledger ⊢
    have hnone : idsOf task (Effect.events fx) = [] := by
      rw [hfx]
      split
      · rfl
      · rfl
    refine ⟨⟨hledger, h.registrations, h.overlap, h.state, h.live, h.table, ?_⟩, ?_⟩
    · rw [h.nextId, idsOf_append, hnone, List.append_nil]
    · rw [hfx]
      split
      · simp [eventsAbout, Event.task, hne]
      · rfl
  · rw [hd] at hledger ⊢
    refine ⟨⟨hledger, h.registrations, h.overlap, h.state, h.live, ?_, ?_⟩, ?_⟩
    · rw [Loop.unfinished_withFire, List.filter_append, h.table]
      simp [hne]
    · rw [h.nextId, idsOf_append, Effect.events_cons_event, Effect.events_nil,
        idsOf_fired_of_ne hne, List.append_nil]
    · simp [eventsAbout, Event.task, hne]

/-- **The dispatches of due tasks**: alone, the task is dispatched as often as among the others. -/
theorem dispatchDue (h : Mirror task total es l s)
    (hnd : ((firesOf total).map Prod.snd).Nodup) {names : List String}
    (htotal : es ++ Effect.events (l.dispatchDue names).2 <+: total) :
    Mirror task total (es ++ Effect.events (l.dispatchDue names).2) (l.dispatchDue names).1
        (s.dispatchDue (names.filter fun name => name == task)).1 ∧
      eventsAbout task
          (Effect.events (s.dispatchDue (names.filter fun name => name == task)).2) =
        (eventsAbout task (Effect.events (l.dispatchDue names).2)).map
          (Event.rename (renumber (idsOf task total))) := by
  induction names generalizing l s es with
  | nil =>
      refine ⟨?_, rfl⟩
      rw [Loop.dispatchDue_nil, Effect.events_nil, List.append_nil]
      exact h
  | cons name names ih =>
      rw [Loop.dispatchDue_cons] at htotal ⊢
      simp only [Effect.events_append] at htotal ⊢
      rw [← List.append_assoc] at htotal ⊢
      have hfirst := (List.prefix_append _ _).trans htotal
      by_cases hname : name = task
      · subst hname
        obtain ⟨hone, hevents, _⟩ := h.dispatch_self hnd .timer hfirst
        obtain ⟨hrest, hmore⟩ := ih hone htotal
        rw [List.filter_cons_of_pos (by simp), Loop.dispatchDue_cons]
        refine ⟨hrest, ?_⟩
        rw [Effect.events_append, eventsAbout_append, eventsAbout_append, List.map_append, hevents,
          hmore]
      · obtain ⟨hone, hevents⟩ := h.dispatch_other hname .timer
        obtain ⟨hrest, hmore⟩ := ih hone htotal
        rw [List.filter_cons_of_neg (by simpa using hname)]
        refine ⟨hrest, ?_⟩
        rw [eventsAbout_append, hevents, List.nil_append]
        exact hmore

/-! ### Ends of fires -/

/-- A fire of the run so far is one of the whole run. -/
theorem mem_firesOf_total (h : Mirror task total es l s) (htotal : es <+: total) {name : String}
    {id : FireId} (hid : (name, id) ∈ l.unfinished) : (name, id) ∈ firesOf total := by
  rw [h.ledger.table] at hid
  obtain ⟨rest, rfl⟩ := htotal
  rw [firesOf_append]
  exact List.mem_append_left _ (mem_openFires.1 hid).1

/-- **The end of a fire of the task** is the end of the same fire in both. -/
theorem finish_self (h : Mirror task total es l s)
    (hnd : ((firesOf total).map Prod.snd).Nodup) (htotal : es <+: total) {id : FireId}
    (hid : id ∈ idsOf task total) (outcome : Outcome) :
    Mirror task total (es ++ Effect.events (l.finish id outcome).2) (l.finish id outcome).1
        (s.finish (renumber (idsOf task total) id) outcome).1 ∧
      eventsAbout task
          (Effect.events (s.finish (renumber (idsOf task total) id) outcome).2) =
        (eventsAbout task (Effect.events (l.finish id outcome).2)).map
          (Event.rename (renumber (idsOf task total))) := by
  have hledger := h.ledger.finish id outcome
  rcases l.finish_cases id outcome with ⟨hnone, hf⟩ | ⟨name, hmem, hl, he⟩
  · rcases s.finish_cases (renumber (idsOf task total) id) outcome with
      ⟨_, hf'⟩ | ⟨name, hmem', _, _⟩
    · rw [hf, hf']
      refine ⟨?_, rfl⟩
      rw [Effect.events_nil, List.append_nil]
      exact h
    · obtain ⟨_, id', hmem, heq⟩ := h.mem_unfinished.1 hmem'
      have hid' := NodeSidecar.mem_idsOf.2 (h.mem_firesOf_total htotal hmem)
      rw [renumber_inj hid' heq] at hmem
      exact absurd hmem (hnone task)
  · obtain rfl : name = task := by
      have heq := List.inj_on_of_nodup_map hnd (h.mem_firesOf_total htotal hmem)
        (NodeSidecar.mem_idsOf.1 hid) rfl
      exact (Prod.mk.inj heq).1
    rcases s.finish_cases (renumber (idsOf name total) id) outcome with
      ⟨hnone', _⟩ | ⟨name', hmem', hl', he'⟩
    · exact absurd (h.mem_unfinished.2 ⟨rfl, id, hmem, rfl⟩) (hnone' name)
    · obtain ⟨rfl, _⟩ := h.mem_unfinished.1 hmem'
      rw [hl, he] at hledger
      rw [hl, hl', he, he']
      refine ⟨⟨hledger, h.registrations, h.overlap, h.state, h.live, ?_, ?_⟩, ?_⟩
      · rw [Loop.unfinished_markFinished, Loop.unfinished_markFinished, h.table, List.filter_map,
          List.filter_filter, List.filter_filter]
        congr 1
        refine List.filter_congr fun f hf => ?_
        -- among the fires of the task, the number tells the identifier
        by_cases hname : f.1 = name'
        · have hf' : f.2 ∈ idsOf name' total := by
            rw [← hname] at h ⊢
            exact NodeSidecar.mem_idsOf.2 (h.mem_firesOf_total htotal hf)
          have hiff : renumber (idsOf name' total) f.2 = renumber (idsOf name' total) id ↔
              f.2 = id := ⟨renumber_inj hf', fun heq => by rw [heq]⟩
          simp [hname, hiff]
        · have hbeq : (f.1 == name') = false := by simpa using hname
          simp [hbeq]
      · change s.nextId = _
        rw [h.nextId, idsOf_append, idsOf_of_fires_nil (firesOf_event _ _ _), List.append_nil]
      · simp [eventsAbout]

/-- **The end of another fire** is not seen. -/
theorem finish_other (h : Mirror task total es l s) (htotal : es <+: total) {id : FireId}
    (hid : id ∉ idsOf task total) (outcome : Outcome) :
    Mirror task total (es ++ Effect.events (l.finish id outcome).2) (l.finish id outcome).1 s ∧
      eventsAbout task (Effect.events (l.finish id outcome).2) = [] := by
  have hledger := h.ledger.finish id outcome
  rcases l.finish_cases id outcome with ⟨_, hf⟩ | ⟨name, hmem, hl, he⟩
  · rw [hf]
    refine ⟨?_, rfl⟩
    rw [Effect.events_nil, List.append_nil]
    exact h
  · have hne : ∀ id', (task, id') ∈ l.unfinished → id' ≠ id := by
      rintro id' hmem' rfl
      exact hid (NodeSidecar.mem_idsOf.2 (h.mem_firesOf_total htotal hmem'))
    have hname : name ≠ task := by
      rintro rfl
      exact hne id hmem rfl
    rw [hl, he] at hledger
    rw [hl, he]
    refine ⟨⟨hledger, h.registrations, h.overlap, h.state, h.live, ?_, ?_⟩, ?_⟩
    · rw [Loop.unfinished_markFinished, h.table, List.filter_filter]
      congr 1
      refine List.filter_congr fun f hf => ?_
      by_cases htask : f.1 = task
      · have hf' : f.2 ≠ id := hne f.2 (by rw [← htask]; exact hf)
        simp [hf']
      · simp [htask]
    · rw [h.nextId, idsOf_append, idsOf_of_fires_nil (firesOf_event _ _ _), List.append_nil]
    · simp [eventsAbout, hname]

/-! ### Ticks -/

/-- **A tick that does not derail** moves the timer of the task and dispatches it in both, or ends
both loops. -/
theorem tick (h : Mirror task total es l s) (hnd : ((firesOf total).map Prod.snd).Nodup)
    {now : Instant} (hderail : ¬ l.Derails task now)
    (htotal : es ++ Effect.events (l.tick now).2 <+: total) :
    Mirror task total (es ++ Effect.events (l.tick now).2) (l.tick now).1 (s.tick now).1 ∧
      eventsAbout task (Effect.events (s.tick now).2) =
        (eventsAbout task (Effect.events (l.tick now).2)).map
          (Event.rename (renumber (idsOf task total))) := by
  by_cases hp : l.phase = .live
  · have hp' := h.live.2 hp
    cases ha : advanceDue now l.registrations with
    | ok p =>
        obtain ⟨due, rs⟩ := p
        have ha' := advanceDue_filter ha fun name => name == task
        rw [← h.registrations] at ha'
        have hdispatched : s.dispatched (due.filter fun name => name == task) =
            (l.dispatched due).filter fun name => name == task := by
          rw [Loop.dispatched, Loop.dispatched, h.state]
          split
          · rfl
          · rfl
        rw [Loop.tick_of_advanceDue hp ha] at htotal ⊢
        rw [Loop.tick_of_advanceDue hp' ha', hdispatched]
        obtain ⟨hmirror, hevents⟩ := (h.setRegistrations rs).dispatchDue hnd htotal
        exact ⟨hmirror.cleanUp, hevents⟩
    | error b =>
        -- the timer of the task breaks down as well
        cases ha' : advanceDue now s.registrations with
        | ok p => exact absurd ⟨hp, ⟨b, ha⟩, p, h.registrations ▸ ha'⟩ hderail
        | error b' =>
            rw [Loop.tick_of_error hp ha, Loop.tick_of_error hp' ha']
            refine ⟨?_, rfl⟩
            rw [Effect.events_nil, List.append_nil]
            exact ⟨h.ledger.congr rfl rfl rfl, h.registrations, h.overlap, h.state, by simp,
              h.table, h.nextId⟩
  · rw [Loop.tick_of_not_live hp, Loop.tick_of_not_live (mt h.live.1 hp)]
    refine ⟨?_, rfl⟩
    rw [Effect.events_nil, List.append_nil]
    exact h

/-- The task is due at the same ticks. -/
theorem dueSights (h : Mirror task total es l s) (m : Move) :
    s.dueSights task m = l.dueSights task m := by
  cases m with
  | tick now =>
      rw [Loop.dueSights, Loop.dueSights, h.registrations, List.any_filter]
      simp only [h.live, Bool.and_self_left]
  | command now c => rfl
  | finish id outcome => rfl
  | look now => rfl

/-! ### Commands -/

/-- **A command that is no trigger** changes both loops in the same way. -/
theorem command (h : Mirror task total es l s) (now : Duration) {c : Command}
    (hc : ∀ name, c ≠ .trigger name) :
    Mirror task total es (l.command now c).2.1 (s.command now c).2.1 ∧
      Effect.events (l.command now c).2.2 = [] ∧ Effect.events (s.command now c).2.2 = [] := by
  by_cases hp : l.phase = .live
  · have hp' := h.live.2 hp
    cases c with
    | trigger name => exact absurd rfl (hc name)
    | tasks =>
        simp only [Loop.command, hp, hp']
        exact ⟨h, rfl, rfl⟩
    | pause =>
        simp only [Loop.command, hp, hp']
        exact ⟨⟨h.ledger.congr rfl rfl rfl, h.registrations, h.overlap, rfl, iff_of_true rfl rfl,
          h.table, h.nextId⟩, rfl, rfl⟩
    | resume =>
        simp only [Loop.command, hp, hp']
        exact ⟨⟨h.ledger.congr rfl rfl rfl, h.registrations, h.overlap, rfl, iff_of_true rfl rfl,
          h.table, h.nextId⟩, rfl, rfl⟩
    | shutdown =>
        obtain ⟨hq, he⟩ := l.quiet_shutDown now
        obtain ⟨hq', he'⟩ := s.quiet_shutDown now
        obtain ⟨hstate, hphase⟩ := l.shutDown_stopped now
        obtain ⟨hstate', hphase'⟩ := s.shutDown_stopped now
        simp only [Loop.command, hp, hp']
        exact ⟨h.quiet hq hq' (hstate'.trans hstate.symm) (iff_of_false hphase' hphase), he, he'⟩
  · obtain ⟨_, hl⟩ := Loop.command_of_not_live hp now c
    obtain ⟨_, hs⟩ := Loop.command_of_not_live (mt h.live.1 hp) now c
    rw [hl, hs]
    exact ⟨h, rfl, rfl⟩

/-- **A trigger of the task** has the same answer in both, up to the number of the fire. -/
theorem trigger_self (h : Mirror task total es l s)
    (hnd : ((firesOf total).map Prod.snd).Nodup) {now : Duration}
    (htotal : es ++ Effect.events (l.command now (.trigger task)).2.2 <+: total) :
    Mirror task total (es ++ Effect.events (l.command now (.trigger task)).2.2)
        (l.command now (.trigger task)).2.1 (s.command now (.trigger task)).2.1 ∧
      eventsAbout task (Effect.events (s.command now (.trigger task)).2.2) =
        (eventsAbout task (Effect.events (l.command now (.trigger task)).2.2)).map
          (Event.rename (renumber (idsOf task total))) ∧
      (s.command now (.trigger task)).1.answer? =
        (l.command now (.trigger task)).1.answer?.map
          (Except.map (renumber (idsOf task total))) := by
  by_cases hp : l.phase = .live
  · rw [Loop.command_trigger hp] at htotal ⊢
    rw [Loop.command_trigger (h.live.2 hp)]
    obtain ⟨hmirror, hevents, hresult⟩ := h.dispatch_self hnd .manual htotal
    refine ⟨hmirror, hevents, ?_⟩
    rw [hresult]
    cases (l.dispatch task .manual).1 with
    | ok id => rfl
    | error e => cases e <;> rfl
  · obtain ⟨_, hl⟩ := Loop.command_of_not_live hp now (.trigger task)
    obtain ⟨_, hs⟩ := Loop.command_of_not_live (mt h.live.1 hp) now (.trigger task)
    rw [hl, hs, Effect.events_nil, List.append_nil]
    exact ⟨h, rfl, rfl⟩

/-- **A trigger of another task** is not seen. -/
theorem trigger_other (h : Mirror task total es l s) {name : String} (hne : name ≠ task)
    (now : Duration) :
    Mirror task total (es ++ Effect.events (l.command now (.trigger name)).2.2)
        (l.command now (.trigger name)).2.1 s ∧
      eventsAbout task (Effect.events (l.command now (.trigger name)).2.2) = [] := by
  by_cases hp : l.phase = .live
  · rw [Loop.command_trigger hp]
    exact h.dispatch_other hne .manual
  · obtain ⟨_, hl⟩ := Loop.command_of_not_live hp now (.trigger name)
    rw [hl, Effect.events_nil, List.append_nil]
    exact ⟨h, rfl⟩

/-! ### Moves -/

/-- What the task sees of a move in both, put together. -/
theorem sights_eq (h : Mirror task total es l s) {m m' : Move}
    (hdue : s.dueSights task m' = s.dueSights task m)
    (hevents : eventsAbout task (Effect.events (s.move m').2) =
      (eventsAbout task (Effect.events (l.move m).2)).map
        (Event.rename (renumber (idsOf task total))))
    (hanswer : s.answerSights task m' =
      (l.answerSights task m).map (Sight.rename (renumber (idsOf task total)))) :
    s.sights task m' = (l.sights task m).map (Sight.rename (renumber (idsOf task total))) := by
  have hdue' : (l.dueSights task m).map (Sight.rename (renumber (idsOf task total))) =
      l.dueSights task m := by
    cases m with
    | tick now =>
        rw [Loop.dueSights]
        split
        · rfl
        · rfl
    | command now c => rfl
    | finish id outcome => rfl
    | look now => rfl
  rw [Loop.sights, Loop.sights, List.map_append, List.map_append, hdue, h.dueSights, hdue', hevents,
    hanswer, List.map_map, List.map_map]
  rfl

/-- **What it is for a move to keep the two in step**: they are in step after it, and the task sees
the same of it. -/
def Kept (task : String) (total es : List Event) (l s : Loop) (m : Move) : Prop :=
  Mirror task total (es ++ Effect.events (l.move m).2) (l.move m).1
      (s.after (m.alone task (idsOf task total)).toList) ∧
    s.trace task (m.alone task (idsOf task total)).toList =
      (l.sights task m).map (Sight.rename (renumber (idsOf task total)))

section Kept

variable {m m' : Move}

/-- A move that is made in both. -/
theorem kept_of_made (halone : m.alone task (idsOf task total) = some m')
    (h : Mirror task total (es ++ Effect.events (l.move m).2) (l.move m).1 (s.move m').1)
    (hsights : s.sights task m' =
      (l.sights task m).map (Sight.rename (renumber (idsOf task total)))) :
    Kept task total es l s m := by
  rw [Kept, halone]
  refine ⟨h, ?_⟩
  rw [Option.toList_some, Loop.trace, Loop.trace, List.append_nil, hsights]

/-- A move that is made in the one only. -/
theorem kept_of_passed (halone : m.alone task (idsOf task total) = none)
    (h : Mirror task total (es ++ Effect.events (l.move m).2) (l.move m).1 s)
    (hsights : l.sights task m = []) : Kept task total es l s m := by
  rw [Kept, halone, hsights]
  exact ⟨h, rfl⟩

end Kept

/-- **Every move but a derailing tick keeps the two in step.** -/
theorem move (h : Mirror task total es l s) (hnd : ((firesOf total).map Prod.snd).Nodup) {m : Move}
    (hderail : ∀ now, m = .tick now → ¬ l.Derails task now)
    (htotal : es ++ Effect.events (l.move m).2 <+: total) : Kept task total es l s m := by
  have hsofar := (List.prefix_append es _).trans htotal
  cases m with
  | tick now =>
      obtain ⟨hmirror, hevents⟩ := h.tick hnd (hderail now rfl) htotal
      exact kept_of_made rfl hmirror (h.sights_eq rfl hevents rfl)
  | finish id outcome =>
      by_cases hid : id ∈ idsOf task total
      · obtain ⟨hmirror, hevents⟩ := h.finish_self hnd hsofar hid outcome
        exact kept_of_made (if_pos hid) hmirror (h.sights_eq rfl hevents rfl)
      · obtain ⟨hmirror, hevents⟩ := h.finish_other hsofar hid outcome
        refine kept_of_passed (if_neg hid) hmirror ?_
        rw [Loop.sights, Loop.move, hevents]
        rfl
  | look now =>
      obtain ⟨hq, he⟩ := l.quiet_look now
      obtain ⟨hq', he'⟩ := s.quiet_look now
      obtain ⟨hstate, hphase⟩ := l.look_keeps now
      obtain ⟨hstate', hphase'⟩ := s.look_keeps now
      refine kept_of_made rfl ?_ (h.sights_eq rfl ?_ rfl)
      · rw [Loop.move, he, List.append_nil]
        refine h.quiet hq hq' ?_ ?_
        · rw [Loop.move, hstate', hstate, h.state]
        · exact hphase'.trans (h.live.trans hphase.symm)
      · rw [Loop.move, Loop.move, he, he']
        rfl
  | command now c =>
      by_cases hc : ∀ name, c ≠ .trigger name
      · obtain ⟨hmirror, he, he'⟩ := h.command now hc
        refine kept_of_made (Move.alone_command hc) ?_ (h.sights_eq rfl ?_ ?_)
        · rw [Loop.move, he, List.append_nil]
          exact hmirror
        · rw [Loop.move, Loop.move, he, he']
          rfl
        · rw [Loop.answerSights_command s hc, Loop.answerSights_command l hc]
          rfl
      · obtain ⟨name, rfl⟩ : ∃ name, c = .trigger name := by
          simpa using hc
        by_cases hname : name = task
        · subst hname
          obtain ⟨hmirror, hevents, hanswer⟩ := h.trigger_self hnd htotal
          refine kept_of_made (if_pos rfl) hmirror (h.sights_eq rfl hevents ?_)
          rw [Loop.answerSights, Loop.answerSights, if_pos rfl, if_pos rfl, hanswer]
          rfl
        · obtain ⟨hmirror, hevents⟩ := h.trigger_other hname now
          refine kept_of_passed (if_neg hname) hmirror ?_
          rw [Loop.sights, Loop.move, hevents, Loop.answerSights, if_neg hname]
          rfl

end Mirror

end NodeSidecar
