/-
**Tasks do not disturb each other, unless a timer ends the loop.**

Whatever the other tasks of a scheduler are, and however their fires end, overlap or hang, a task
fires when and how it would fire alone.  There is one exception: the timers of all tasks are moved
in one loop, and a timer that breaks down ends it for all of them.

Main definitions:

* `Loop.OnTrack` — in a run no timer of another task ends the loop;
* `Loop.Isolated` — in a run a task sees what it sees alone.

Main results:

* `Mirror.run` — a run that is on track keeps a scheduler and the one of the task alone in step;
* `Loop.exists_alone` — a scheduler that starts and the one of the task alone start in step;
* `Loop.Derails.not_isolated` — after a derailing tick a trigger of the task tells the difference;
* `isolated_iff_on_track` — **a task is isolated in every run if and only if every run is on
  track**;
* `other_timer_ends_loop` — a scheduler in which a task is not isolated.
-/

import NodeSidecar.Proofs.Scheduler.Coalescing
import NodeSidecar.Proofs.Scheduler.Projection

set_option autoImplicit false

namespace NodeSidecar

/-- **A run as it is when a task is alone.** -/
def alone (task : String) (ids : List FireId) (ms : List Move) : List Move :=
  ms.filterMap (Move.alone task ids)

theorem alone_cons (task : String) (ids : List FireId) (m : Move) (ms : List Move) :
    alone task ids (m :: ms) = (m.alone task ids).toList ++ alone task ids ms := by
  cases h : m.alone task ids <;> simp [alone, h]

theorem alone_append (task : String) (ids : List FireId) (ms ns : List Move) :
    alone task ids (ms ++ ns) = alone task ids ms ++ alone task ids ns := by
  rw [alone, List.filterMap_append]
  rfl

namespace Loop

/-- **In a run no timer of another task ends the loop.** -/
def OnTrack (task : String) (l : Loop) (ms : List Move) : Prop :=
  ∀ before now after, ms = before ++ .tick now :: after → ¬ (l.after before).Derails task now

/-- **In a run of `l` a task sees what it sees in the run of `s` in which it is alone**, at every
moment: the same ticks at which it is due, the same events and answers up to the identifiers of
fires, and the same status. -/
def Isolated (task : String) (l s : Loop) (ms : List Move) : Prop :=
  ∀ before, before <+: ms →
    s.trace task (alone task (idsOf task (l.history ms)) before) =
        (l.trace task before).map (Sight.rename (renumber (idsOf task (l.history ms)))) ∧
      (s.after (alone task (idsOf task (l.history ms)) before)).status? task =
        (l.after before).status? task

section OnTrack

variable {task : String} {l : Loop} {m : Move} {ms : List Move}

theorem onTrack_nil (task : String) (l : Loop) : l.OnTrack task [] := by
  intro before now after heq
  exact absurd heq (by simp)

theorem OnTrack.of_append {ns : List Move} (h : l.OnTrack task (ms ++ ns)) : l.OnTrack task ms := by
  intro before now after heq
  refine h before now (after ++ ns) ?_
  rw [heq, List.append_assoc]
  rfl

theorem OnTrack.tail (h : l.OnTrack task (m :: ms)) : (l.move m).1.OnTrack task ms := by
  intro before now after heq
  refine h (m :: before) now after ?_
  rw [heq]
  rfl

/-- One tick more. -/
theorem OnTrack.concat (h : l.OnTrack task ms)
    (hm : ∀ now, m = .tick now → ¬ (l.after ms).Derails task now) :
    l.OnTrack task (ms ++ [m]) := by
  intro before now after heq
  rcases List.eq_nil_or_concat' after with rfl | ⟨after, m', rfl⟩
  · obtain ⟨rfl, hnow⟩ := List.append_inj' heq rfl
    exact hm now (List.cons.inj hnow).1
  · refine h before now after ?_
    have hconcat : ms ++ [m] = (before ++ .tick now :: after) ++ [m'] := by
      rw [heq, List.append_assoc]
      rfl
    exact (List.append_inj' hconcat rfl).1

/-- Timers that always answer keep every run on track. -/
theorem onTrack_of_answers (h : ∀ p ∈ l.roster, p.2.Answers) (ms : List Move) :
    l.OnTrack task ms := by
  intro before now after _ hderails
  obtain ⟨-, ⟨b, hb⟩, -⟩ := hderails
  obtain ⟨p, hp⟩ := advanceDue_after_answers h before now
  rw [hp] at hb
  cases hb

end OnTrack

end Loop

/-! ### Runs -/

namespace Mirror

variable {task : String} {total es : List Event} {l s : Loop}

/-- **A run that is on track keeps the two in step**, and the task sees the same of it. -/
theorem run (h : Mirror task total es l s) (hnd : ((firesOf total).map Prod.snd).Nodup)
    {ms : List Move} (htrack : l.OnTrack task ms) (htotal : es ++ l.history ms <+: total) :
    Mirror task total (es ++ l.history ms) (l.after ms)
        (s.after (alone task (idsOf task total) ms)) ∧
      s.trace task (alone task (idsOf task total) ms) =
        (l.trace task ms).map (Sight.rename (renumber (idsOf task total))) := by
  induction ms generalizing l s es with
  | nil =>
      refine ⟨?_, rfl⟩
      rw [Loop.history_nil, List.append_nil]
      exact h
  | cons m ms ih =>
      rw [Loop.history_cons, ← List.append_assoc] at htotal ⊢
      obtain ⟨hstep, hsights⟩ := h.move hnd (m := m)
        (fun now hm => htrack [] now ms (by rw [hm]; rfl))
        ((List.prefix_append _ _).trans htotal)
      obtain ⟨hrest, htrace⟩ := ih hstep htrack.tail htotal
      rw [alone_cons, Loop.after_append, Loop.after_cons]
      refine ⟨hrest, ?_⟩
      rw [Loop.trace_append, hsights, htrace, Loop.trace, List.map_append]

/-- What is told about the task is the same in both. -/
theorem status?_eq (h : Mirror task total es l s) : s.status? task = l.status? task := by
  rw [Loop.status?, Loop.status?, Loop.statuses, Loop.statuses, h.registrations, List.find?_map,
    List.find?_map, List.find?_filter]
  simp only [Function.comp_def, and_self, Bool.decide_eq_true]
  cases hfind : l.registrations.find? fun r => r.name == task with
  | none => rfl
  | some r =>
      obtain rfl : r.name = task := by simpa using List.find?_some hfind
      rw [Option.map_some, Option.map_some, h.inFlight]

/-- **In a run that is on track a task is isolated.** -/
theorem isolated (h : ∀ total, Mirror task total [] l s) {ms : List Move}
    (hnd : ((firesOf (l.history ms)).map Prod.snd).Nodup) (htrack : l.OnTrack task ms) :
    l.Isolated task s ms := by
  rintro before ⟨after, rfl⟩
  obtain ⟨hmirror, htrace⟩ := (h (l.history (before ++ after))).run hnd htrack.of_append
    (by rw [Loop.history_append]; exact List.prefix_append _ _)
  exact ⟨htrace, hmirror.status?_eq⟩

end Mirror

namespace Loop

variable {task : String} {l s : Loop}

/-- A loop that goes on answers a trigger, -/
theorem answer_of_live (hp : l.phase = .live) (now : Duration) :
    ∃ a, (l.command now (.trigger task)).1.answer? = some a := by
  rw [command_trigger hp]
  rcases l.dispatch_cases task .manual with ⟨_, hd⟩ | ⟨_, _, fx, hd, _⟩ | ⟨_, _, hd⟩
  · rw [hd]
    exact ⟨_, rfl⟩
  · rw [hd]
    exact ⟨_, rfl⟩
  · rw [hd]
    exact ⟨_, rfl⟩

/-- and of one that does not go on a task sees that there is none. -/
theorem sights_trigger_of_not_live (hp : l.phase ≠ .live) (now : Duration) :
    l.sights task (.command now (.trigger task)) = [.answer none] := by
  obtain ⟨text, hcommand⟩ := command_of_not_live hp now (.trigger task)
  rw [sights, move, answerSights, if_pos rfl, hcommand]
  rfl

/-- Of the last move of a run a task sees what it sees of it alone. -/
theorem Isolated.sights_concat {ms : List Move} {m : Move} (h : l.Isolated task s (ms ++ [m]))
    (m' : Move)
    (halone : m.alone task (idsOf task (l.history (ms ++ [m]))) = some m') :
    (s.after (alone task (idsOf task (l.history (ms ++ [m]))) ms)).sights task m' =
      ((l.after ms).sights task m).map
        (Sight.rename (renumber (idsOf task (l.history (ms ++ [m]))))) := by
  have hbefore := (h ms (List.prefix_append _ _)).1
  have hwhole := (h (ms ++ [m]) (List.prefix_refl _)).1
  generalize idsOf task (l.history (ms ++ [m])) = ids at halone hbefore hwhole
  have hlast : alone task ids [m] = [m'] := by
    simp [alone, halone]
  rw [alone_append, hlast, Loop.trace_append, Loop.trace_append, List.map_append, hbefore] at hwhole
  simpa [trace] using List.append_cancel_left hwhole

/-- **After a derailing tick a trigger of the task tells the difference**: there is no loop to
answer it, and alone there is one. -/
theorem Derails.not_isolated {ms : List Move} {now : Instant}
    (hderails : (l.after ms).Derails task now) (h : ∀ total, Mirror task total [] l s)
    (hnd : ∀ ms, ((firesOf (l.history ms)).map Prod.snd).Nodup) (htrack : l.OnTrack task ms)
    (later : Duration) :
    ¬ l.Isolated task s (ms ++ [.tick now] ++ [.command later (.trigger task)]) := by
  intro hisolated
  have hsights := hisolated.sights_concat (.command later (.trigger task)) (if_pos rfl)
  generalize hrun : ms ++ [.tick now] ++ [.command later (.trigger task)] = run at hsights
  obtain ⟨hmirror, -⟩ := (h (l.history run)).run (hnd run) htrack
    (by rw [← hrun, history_append, history_append, List.append_assoc]
        exact List.prefix_append _ _)
  obtain ⟨hp, ⟨b, hb⟩, ⟨p, hok⟩⟩ := hderails
  -- the tick ends the loop, but not the one of the task alone
  have hended : (l.after (ms ++ [.tick now])).phase ≠ .live := by
    rw [after_append, after_cons, move, tick_of_error hp hb]
    simp
  have hgoes : (s.after (alone task (idsOf task (l.history run)) (ms ++ [.tick now]))).phase =
      .live := by
    have hp' := hmirror.live.2 hp
    rw [← hmirror.registrations] at hok
    rw [alone_append, after_append]
    change ((s.after _).tick now).1.phase = .live
    rw [tick_of_advanceDue hp' hok]
    exact (sameSetup_dispatchDue _ _).phase.trans hp'
  obtain ⟨a, ha⟩ := answer_of_live hgoes later
  have hmem : Sight.answer (some a) ∈
      (s.after (alone task (idsOf task (l.history run)) (ms ++ [.tick now]))).sights task
        (.command later (.trigger task)) := by
    rw [sights, answerSights, if_pos rfl, ha]
    exact List.mem_append_right _ List.mem_cons_self
  rw [hsights, sights_trigger_of_not_live hended] at hmem
  simp [Sight.rename] at hmem

/-! ### The scheduler of one task -/

/-- The registration of a task is the only one of its name. -/
theorem filter_registrations {r : Registration} (hnd : l.taskNames.Nodup)
    (hr : r ∈ l.registrations) : (l.registrations.filter fun r' => r'.name == r.name) = [r] := by
  obtain ⟨before, after, hsplit⟩ := List.append_of_mem hr
  rw [taskNames, hsplit] at hnd
  have hother : ∀ r' ∈ before ++ after, ¬ (r'.name == r.name) = true := by
    intro r' hr' hname
    have hmem : r.name ∈ (before ++ after).map Registration.name := by
      rw [← eq_of_beq hname]
      exact List.mem_map_of_mem hr'
    rw [List.map_append, List.map_cons, List.nodup_middle, List.nodup_cons] at hnd
    rw [List.map_append] at hmem
    exact hnd.1 hmem
  rw [hsplit, List.filter_append, List.filter_cons_of_pos (by simp),
    List.filter_eq_nil_iff.2 fun r' hr' => hother r' (List.mem_append_left _ hr'),
    List.filter_eq_nil_iff.2 fun r' hr' => hother r' (List.mem_append_right _ hr')]
  rfl

/-- A scheduler with one task starts if the timer of the task has an answer. -/
theorem launch_one {overlap : OverlapPolicy} {timeout : Duration} {timer : Timer} {now : Instant}
    {next : Option Instant} (h : timer.firstFire now = .ok next) :
    launch overlap timeout [(task, timer)] now =
      .ok { registrations := [⟨task, timer, next⟩], overlap, shutdownTimeout := timeout } := by
  change ({ registrations := [⟨task, timer, none⟩], overlap, shutdownTimeout := timeout } :
    Loop).start now = _
  simp only [start, List.mapM_cons, List.mapM_nil, h, bind, Except.bind, pure, Except.pure]

/-- **A scheduler and the one in which a task is alone start in step**, and if the one starts, so
does the other. -/
theorem exists_alone {overlap : OverlapPolicy} {timeout : Duration} {tasks : List (String × Timer)}
    {start : Instant} {timer : Timer} (h : launch overlap timeout tasks start = .ok l)
    (hname : tasks.lookup task = some timer) :
    ∃ s, launch overlap timeout [(task, timer)] start = .ok s ∧
      ∀ total, Mirror task total [] l s := by
  have hl := launched h
  obtain ⟨r, hr, -, rfl, rfl⟩ :=
    exists_registration hl.nodup_taskNames ((hl.mem_roster task timer).2 hname)
  refine ⟨{ registrations := [r], overlap, shutdownTimeout := timeout }, ?_, fun total => ?_⟩
  · exact launch_one (hl.firstFire r hr)
  · refine ⟨ledger_of_launch h [], (filter_registrations hl.nodup_taskNames hr).symm,
      hl.overlap.symm, hl.state.symm, iff_of_true rfl hl.phase, ?_, rfl⟩
    simp [unfinished, hl.fires]

end Loop

/-! ### The law of isolation -/

section Launched

variable {overlap : OverlapPolicy} {timeout : Duration} {tasks : List (String × Timer)}
  {start : Instant} {l : Loop} {task : String} {timer : Timer}

/-- **A task is isolated unless the timer of another task ends the loop.**  Let a scheduler with a
task be started; then the scheduler in which the task is alone starts as well, and

* in every run in which no timer of another task ends the loop, the task sees what it sees alone;
* the task is isolated in every run only if no run has such an end. -/
theorem isolated_iff_on_track (h : Loop.launch overlap timeout tasks start = .ok l)
    (hname : tasks.lookup task = some timer) :
    ∃ s, Loop.launch overlap timeout [(task, timer)] start = .ok s ∧
      (∀ ms, l.OnTrack task ms → l.Isolated task s ms) ∧
      ((∀ ms, l.Isolated task s ms) ↔ ∀ ms, l.OnTrack task ms) := by
  obtain ⟨s, hs, hmirror⟩ := Loop.exists_alone h hname
  have hnd : ∀ ms, ((firesOf (l.history ms)).map Prod.snd).Nodup := fun ms =>
    (ledger_of_launch h ms).history.nodup_fires
  have hisolated : ∀ ms, l.OnTrack task ms → l.Isolated task s ms := fun ms =>
    Mirror.isolated hmirror (hnd ms)
  refine ⟨s, hs, hisolated, fun hall ms => ?_, fun htrack ms => hisolated ms (htrack ms)⟩
  -- the first derailing tick of a run would tell
  induction ms using List.reverseRecOn with
  | nil => exact Loop.onTrack_nil task l
  | append_singleton ms m htrack =>
      refine htrack.concat fun now _ hderails => ?_
      exact hderails.not_isolated hmirror hnd htrack ⟨0⟩ (hall _)

/-- Two tasks whose timers never break down. -/
theorem isolated_iff_on_track_of_intervals :
    let l : Loop := { registrations := [⟨"audit", Loop.secondly, some .epoch⟩,
      ⟨"beat", Loop.secondly, some .epoch⟩] }
    let tasks := [("beat", Loop.secondly), ("audit", Loop.secondly)]
    Loop.launch .skip (.ofSeconds 30) tasks .epoch = .ok l ∧
      tasks.lookup "audit" = some Loop.secondly ∧
      ∃ s, Loop.launch .skip (.ofSeconds 30) [("audit", Loop.secondly)] .epoch = .ok s ∧
        ∀ ms, l.Isolated "audit" s ms := by
  intro l tasks
  have h : Loop.launch .skip (.ofSeconds 30) tasks .epoch = .ok l := rfl
  have hname : tasks.lookup "audit" = some Loop.secondly := rfl
  obtain ⟨s, hs, hisolated, -⟩ := isolated_iff_on_track h hname
  refine ⟨h, hname, s, hs, fun ms => hisolated ms (Loop.onTrack_of_answers ?_ ms)⟩
  intro p hp
  obtain rfl | rfl : p = ("audit", Loop.secondly) ∨ p = ("beat", Loop.secondly) := by
    simpa [Loop.roster, l] using hp
  · exact Timer.answers_interval _
  · exact Timer.answers_interval _

end Launched

/-! ### A timer that ends the loop -/

/-- A zone whose clock was put forward over the thirtieth of December 2011. -/
def leapingZone : Zone := ⟨"Leaping", -36000, [⟨1325239200, 50400⟩], rfl⟩

/-- A timer that fires there as the last days but one of a year begin. -/
def yearEnd : Timer :=
  .cron ⟨"0 0 0 29,30 12 ?", leapingZone, [0], [0], [0], [29, 30], [12],
    Cron.Unit.weekday.ordinals, Cron.Unit.year.ordinals⟩

/-- The start of the twenty-ninth of December 2011 there. -/
def lastDay : Instant := ⟨1325152800 * 1000000000, by decide, by decide⟩

/-- The timer fires on that day, and has no answer for the next. -/
theorem yearEnd_breaks_down :
    yearEnd.firstFire ⟨1325152799 * 1000000000, by decide, by decide⟩ = .ok (some lastDay) ∧
      yearEnd.nextAfter lastDay = .error .missingDate :=
  ⟨rfl, rfl⟩

/-- **A task is not isolated from a timer that breaks down.**  The tick at which the timer of the
almanac breaks down ends the loop that the audit shares with it: the audit, which alone would answer
a trigger, does not answer. -/
theorem other_timer_ends_loop :
    let start : Instant := ⟨1325152799 * 1000000000, by decide, by decide⟩
    let l : Loop := { registrations :=
      [⟨"almanac", yearEnd, some lastDay⟩, ⟨"audit", Loop.secondly, some start⟩] }
    let s : Loop := { registrations := [⟨"audit", Loop.secondly, some start⟩] }
    Loop.launch .skip (.ofSeconds 30) [("almanac", yearEnd), ("audit", Loop.secondly)] start =
        .ok l ∧
      Loop.launch .skip (.ofSeconds 30) [("audit", Loop.secondly)] start = .ok s ∧
      ¬ l.Isolated "audit" s [.tick lastDay, .command ⟨0⟩ (.trigger "audit")] := by
  intro start l s
  have h : Loop.launch .skip (.ofSeconds 30) [("almanac", yearEnd), ("audit", Loop.secondly)]
      start = .ok l := by
    change ({ registrations := [⟨"almanac", yearEnd, none⟩, ⟨"audit", Loop.secondly, none⟩] } :
      Loop).start start = .ok l
    simp only [Loop.start, List.mapM_cons, List.mapM_nil, start, yearEnd_breaks_down.1, bind,
      Except.bind, pure, Except.pure]
    rfl
  have hname : [("almanac", yearEnd), ("audit", Loop.secondly)].lookup "audit" =
      some Loop.secondly := rfl
  obtain ⟨s', hs, hmirror⟩ := Loop.exists_alone h hname
  obtain rfl : s = s' := Except.ok.inj hs
  have hanswers : ∀ r ∈ l.registrations.filter (fun r => r.name == "audit"), r.timer.Answers := by
    intro r hr
    obtain rfl : r = ⟨"audit", Loop.secondly, some start⟩ := List.mem_singleton.1 hr
    exact Timer.answers_interval _
  have hderails : (l.after []).Derails "audit" lastDay :=
    ⟨rfl, ⟨_, rfl⟩, Loop.advanceDue_answers lastDay hanswers⟩
  exact ⟨h, hs, hderails.not_isolated hmirror
    (fun ms => (ledger_of_launch h ms).history.nodup_fires) (Loop.onTrack_nil _ _) ⟨0⟩⟩

end NodeSidecar
