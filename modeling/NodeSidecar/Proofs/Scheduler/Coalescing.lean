/-
**Missed instants are coalesced, and none is lost.**

Between two ticks any number of a task's instants may pass, and the clock may even be put back.  A
tick reports the task once if the clock has passed an instant since all earlier readings, and then
moves the task to the first instant that still lies ahead of every reading.  Nothing else moves it:
commands, pauses, the overlap policy and the ends of fires leave the timers alone.

Main definitions:

* `Loop.OnSchedule` — every task stands at the first of its instants that no tick has passed;
* `Loop.GoesOn` — the loop is live, and all its timers answer at the next tick.

Main results:

* `Loop.OnSchedule.move`, `Loop.OnSchedule.after` — a move keeps the tasks on schedule, and so does
  a run;
* `Loop.live_after`, `Loop.goesOn_of_launch` — without a shutdown and with timers that answer, the
  loop goes on;
* `coalescing` — when a task is due, and when it fires next, for every run.
-/

import NodeSidecar.Proofs.Scheduler.Stopping
import NodeSidecar.Proofs.Timer.Upcoming

set_option autoImplicit false

namespace NodeSidecar

/-! ### One registration -/

/-- A tick takes a registration to the next place that the clock has not passed. -/
theorem Registration.Advanced.passed {start now : Instant} {clock : List Instant}
    {r r' : Registration} (ha : Registration.Advanced now r r') (inc : r.timer.Increasing) {k : Nat}
    (h : r.timer.Passed start clock k r.nextFire) :
    ∃ k', r'.timer.Passed start (clock ++ [now]) k' r'.nextFire := by
  cases ha with
  | idle hd =>
      refine ⟨k, h.place, ?_, ?_⟩
      · intro m hm
        obtain ⟨i, n, hi, hn, hle⟩ := h.before m hm
        exact ⟨i, n, hi, List.mem_append_left _ hn, hle⟩
      · intro i hi n hn
        rcases List.mem_append.1 hn with hn | hn
        · exact h.ahead i hi n hn
        · obtain rfl := List.mem_singleton.1 hn
          have hnot : ¬ i ≤ n := fun hle => by
            rw [Registration.due_iff.2 ⟨i, hi, hle⟩] at hd
            cases hd
          exact Int.not_le.1 hnot
  | @moved scheduled first next missed hs hle hf hc =>
      have hk : r.timer.upcoming start k = .ok (some scheduled) := hs ▸ h.place
      have hk' : r.timer.upcoming start (k + 1) = .ok first := by
        rw [Timer.upcoming_succ_of_some hk, hf]
      obtain ⟨m, hkm, hm, hbetween, hafter⟩ := catchUp_upcoming inc hk' hc
      have hnow : now ∈ clock ++ [now] := by simp
      refine ⟨m, hm, ?_, ?_⟩
      · intro n hn
        rcases Nat.lt_trichotomy n k with hlt | rfl | hgt
        · obtain ⟨i, c, hi, hc, hic⟩ := h.before n hlt
          exact ⟨i, c, hi, List.mem_append_left _ hc, hic⟩
        · exact ⟨scheduled, now, hk, hnow, hle⟩
        · obtain ⟨i, hi, hin⟩ := hbetween n hgt hn
          exact ⟨i, now, hi, hnow, hin⟩
      · intro i hi c hc
        have hlt := hafter i hi
        rcases List.mem_append.1 hc with hc | hc
        · -- an earlier reading lies before the instant that was due
          have hcs := h.ahead scheduled hs c hc
          rw [Instant.lt_iff, Instant.le_iff] at *
          omega
        · obtain rfl := List.mem_singleton.1 hc
          exact hlt

/-- A task is due when one of its instants lies between all earlier readings and the clock. -/
theorem Registration.due_iff_reaches {start now : Instant} {clock : List Instant}
    {r : Registration} (h : r.timer.IsFirstAhead start clock r.nextFire) :
    r.due now = true ↔ ∃ i, r.timer.Reaches start i ∧ i ≤ now ∧ ∀ n ∈ clock, n < i := by
  rw [Registration.due_iff]
  constructor
  · rintro ⟨i, hi, hle⟩
    rw [hi] at h
    exact ⟨i, h.1, hle, h.2.1⟩
  · rintro ⟨j, hj, hle, hlt⟩
    cases hn : r.nextFire with
    | none =>
        rw [hn] at h
        obtain ⟨n, hmem, hjn⟩ := h j hj
        exact absurd (hlt n hmem) (Int.not_lt.2 hjn)
    | some i =>
        rw [hn] at h
        exact ⟨i, rfl, Int.le_trans (h.2.2 j hj hlt) hle⟩

namespace Loop

/-! ### All registrations -/

/-- **Every task whose timer moves forward stands at the first of its instants that the ticks have
not passed.** -/
def OnSchedule (l : Loop) (start : Instant) (clock : List Instant) : Prop :=
  ∀ r ∈ l.registrations, r.timer.Increasing → ∃ k, r.timer.Passed start clock k r.nextFire

variable {l : Loop} {start : Instant} {clock : List Instant}

theorem OnSchedule.move (h : l.OnSchedule start clock) {m : Move}
    (hlive : (l.move m).1.phase = .live) :
    (l.move m).1.OnSchedule start (clock ++ m.clock?.toList) := by
  have hm := moved l m
  generalize (l.move m).1 = l', Effect.events (l.move m).2 = es at hm hlive
  cases hm with
  | @ticked now due rs _ ha =>
      intro r' hr' inc
      rw [registrations_ticked] at hr'
      obtain ⟨r, hr, hadv⟩ := exists_of_forall₂_of_mem (advanceDue_ok ha).2 hr'
      have hinc : r.timer.Increasing := hadv.name_timer.2 ▸ inc
      obtain ⟨k, hk⟩ := h r hr hinc
      exact hadv.passed hinc hk
  | triggered =>
      intro r hr
      rw [(sameSetup_dispatch l _ _).registrations] at hr
      simpa [Move.clock?] using h r hr
  | ended =>
      intro r hr
      rw [(sameSetup_finish l _ _).registrations] at hr
      simpa [Move.clock?] using h r hr
  | quiet hq hc =>
      intro r hr
      rw [hq.registrations] at hr
      simpa [hc hlive] using h r hr

/-- **A run keeps the tasks on schedule**, as long as the loop goes on. -/
theorem OnSchedule.after (h : l.OnSchedule start clock) {ms : List Move}
    (hlive : (l.after ms).phase = .live) : (l.after ms).OnSchedule start (clock ++ ticks ms) := by
  induction ms generalizing l clock with
  | nil => simpa using h
  | cons m ms ih =>
      rw [ticks_cons, ← List.append_assoc]
      exact ih (h.move (live_of_after hlive)) hlive

theorem onSchedule_of_launch {overlap : OverlapPolicy} {tasks : List (String × Timer)}
    (h : Launched overlap tasks start l) : l.OnSchedule start [] := by
  intro r hr _
  exact ⟨0, h.firstFire r hr, by simp, by simp⟩

/-! ### The loop goes on -/

theorem advanceDue_answers (now : Instant) {rs : List Registration}
    (h : ∀ r ∈ rs, r.timer.Answers) : ∃ p, advanceDue now rs = .ok p := by
  induction rs with
  | nil => exact ⟨_, rfl⟩
  | cons r rs ih =>
      obtain ⟨p, hp⟩ := ih fun r' hr' => h r' (List.mem_cons_of_mem _ hr')
      by_cases hd : r.due now = true
      · obtain ⟨scheduled, hs, hle⟩ := Registration.due_iff.1 hd
        obtain ⟨first, hf⟩ := h r List.mem_cons_self scheduled
        obtain ⟨q, hq⟩ := catchUp_answers (h r List.mem_cons_self) now first 0
        simp only [advanceDue, bind, Except.bind, pure, Except.pure, hs, if_pos hle, hf, hq, hp]
        exact ⟨_, rfl⟩
      · rw [advanceDue_cons_of_not_due (by simpa using hd), hp]
        exact ⟨_, rfl⟩

theorem live_move (hlive : l.phase = .live) (h : ∀ r ∈ l.registrations, r.timer.Answers)
    {m : Move} (hm : ∀ now, m ≠ .command now .shutdown) : (l.move m).1.phase = .live := by
  cases m with
  | tick now =>
      obtain ⟨⟨due, rs⟩, ha⟩ := advanceDue_answers now h
      simp only [move, tick_of_advanceDue hlive ha]
      exact (sameSetup_dispatchDue _ _).phase.trans hlive
  | finish id outcome => exact (sameSetup_finish l id outcome).phase.trans hlive
  | look now => simp only [move, look, hlive]
  | command now c =>
      have hc : c ≠ .shutdown := fun h => hm now (congrArg (Move.command now) h)
      exact (command_of_live hlive now hc).1

/-- **Without a shutdown, and with timers that answer, the loop goes on.** -/
theorem live_after (hlive : l.phase = .live) (h : ∀ p ∈ l.roster, p.2.Answers) {ms : List Move}
    (hms : ∀ m ∈ ms, ∀ now, m ≠ .command now .shutdown) : (l.after ms).phase = .live := by
  induction ms generalizing l with
  | nil => exact hlive
  | cons m ms ih =>
      have hr : ∀ r ∈ l.registrations, r.timer.Answers := fun r hr =>
        h (r.name, r.timer) (List.mem_map_of_mem hr)
      refine ih (live_move hlive hr (hms m List.mem_cons_self)) ?_
        fun m' hm' => hms m' (List.mem_cons_of_mem _ hm')
      rwa [roster_move]

/-- Timers that answer do so after every run. -/
theorem advanceDue_after_answers (h : ∀ p ∈ l.roster, p.2.Answers) (ms : List Move)
    (now : Instant) : ∃ p, advanceDue now (l.after ms).registrations = .ok p := by
  refine advanceDue_answers now fun r hr => ?_
  have hmem : (r.name, r.timer) ∈ (l.after ms).roster := List.mem_map_of_mem hr
  rw [roster_after] at hmem
  exact h _ hmem

/-- The loop is live, and all its timers answer at the next tick, whenever that comes. -/
def GoesOn (l : Loop) : Prop :=
  l.phase = .live ∧ ∀ now, ∃ due rs, advanceDue now l.registrations = .ok (due, rs)

/-- **A scheduler of timers that answer goes on** after every run without a shutdown. -/
theorem goesOn_of_launch {overlap : OverlapPolicy} {timeout : Duration}
    {tasks : List (String × Timer)} (h : launch overlap timeout tasks start = .ok l)
    (hanswers : ∀ name timer, tasks.lookup name = some timer → timer.Answers) {ms : List Move}
    (hms : ∀ m ∈ ms, ∀ now, m ≠ .command now .shutdown) : (l.after ms).GoesOn := by
  have hl := launched h
  have hroster : ∀ p ∈ l.roster, p.2.Answers := fun p hp =>
    hanswers p.1 p.2 ((hl.mem_roster p.1 p.2).1 hp)
  refine ⟨live_after hl.phase hroster hms, fun now => ?_⟩
  obtain ⟨⟨due, rs⟩, ha⟩ := advanceDue_after_answers hroster ms now
  exact ⟨due, rs, ha⟩

/-- A timer that fires every second answers. -/
theorem answers_of_auditing (name : String) (timer : Timer)
    (h : [("audit", secondly)].lookup name = some timer) : timer.Answers := by
  rw [List.lookup_cons] at h
  split at h
  · obtain rfl := Option.some.inj h
    exact Timer.answers_interval _
  · cases h

/-! ### The registration of a name -/

/-- A task of a run, found by its name. -/
theorem exists_registration {name : String} {timer : Timer} (hnd : l.taskNames.Nodup)
    (h : (name, timer) ∈ l.roster) :
    ∃ r ∈ l.registrations, l.registration? name = some r ∧ r.name = name ∧ r.timer = timer := by
  obtain ⟨r, hr, he⟩ := List.mem_map.1 h
  obtain ⟨rfl, rfl⟩ := Prod.mk.inj he
  have hsome : (l.registration? r.name).isSome :=
    registration?_isSome.2 (List.mem_map_of_mem hr)
  obtain ⟨r', hr'⟩ := Option.isSome_iff_exists.1 hsome
  have hname : r'.name = r.name := by simpa using List.find?_some hr'
  have hmem : r' ∈ l.registrations := List.mem_of_find?_eq_some hr'
  obtain rfl : r' = r := List.inj_on_of_nodup_map hnd hmem hr hname
  exact ⟨r', hr, hr', rfl, rfl⟩

/-- A tick reports a task once or not at all, according to its registration. -/
theorem count_due {now : Instant} {due : List String} {rs : List Registration} {r : Registration}
    (hnd : l.taskNames.Nodup) (ha : advanceDue now l.registrations = .ok (due, rs))
    (hr : r ∈ l.registrations) : due.count r.name = if r.due now then 1 else 0 := by
  have hsub : due.Sublist l.taskNames := sublist_of_advanceDue ha
  have hmem : r.name ∈ due ↔ r.due now = true := by
    rw [mem_due_iff ha]
    constructor
    · rintro ⟨r', hr', hname, hd⟩
      exact List.inj_on_of_nodup_map hnd hr' hr hname ▸ hd
    · intro hd
      exact ⟨r, hr, rfl, hd⟩
  rw [(hnd.sublist hsub).count]
  simp only [hmem]

end Loop

/-! ### The law of a task -/

/-- **Coalescing without loss or drift.**  Let a task with a timer that moves forward be registered,
and let the scheduler be started at `start`.  Without a shutdown, and with timers that answer, the
loop goes on after every run.  Whenever it goes on after a run,

* the task's next instant is the first of its instants that lies after all ticks of the run;
* the next tick reports the task once if one of its instants lies after all ticks of the run but not
  after this one, however many do, and does not report it otherwise;
* every other run with ticks at the same readings, of a scheduler with this task that was started at
  `start`, comes to the same next instant. -/
theorem coalescing {overlap : OverlapPolicy} {timeout : Duration} {tasks : List (String × Timer)}
    {start : Instant} {l : Loop} {name : String} {timer : Timer}
    (h : Loop.launch overlap timeout tasks start = .ok l)
    (hname : tasks.lookup name = some timer) (inc : timer.Increasing) (ms : List Move) :
    ((∀ other timer', tasks.lookup other = some timer' → timer'.Answers) →
      (∀ m ∈ ms, ∀ now, m ≠ .command now .shutdown) → (l.after ms).GoesOn) ∧
    ((l.after ms).phase = .live → ∃ r, (l.after ms).registration? name = some r ∧
      timer.IsFirstAhead start (ticks ms) r.nextFire ∧
      (∀ now due rs, advanceDue now (l.after ms).registrations = .ok (due, rs) →
        due.count name ≤ 1 ∧ (name ∈ due ↔
          ∃ i, timer.Reaches start i ∧ i ≤ now ∧ ∀ n ∈ ticks ms, n < i)) ∧
      ∀ overlap' timeout' tasks' l' ms', Loop.launch overlap' timeout' tasks' start = .ok l' →
        tasks'.lookup name = some timer → (l'.after ms').phase = .live →
        (∀ n, n ∈ ticks ms' ↔ n ∈ ticks ms) →
        ((l'.after ms').registration? name).map Registration.nextFire = some r.nextFire) := by
  -- a scheduler with the task, after any run
  have hfind : ∀ {overlap timeout tasks l ms},
      Loop.launch overlap timeout tasks start = .ok l → tasks.lookup name = some timer →
      (l.after ms).phase = .live → (l.after ms).taskNames.Nodup ∧
        ∃ r ∈ (l.after ms).registrations, (l.after ms).registration? name = some r ∧
          r.name = name ∧ r.timer = timer ∧ timer.IsFirstAhead start (ticks ms) r.nextFire := by
    intro overlap timeout tasks l ms h hname hlive
    have hl := Loop.launched h
    have hnd : (l.after ms).taskNames.Nodup := by
      rw [Loop.taskNames_after]
      exact hl.nodup_taskNames
    have hroster : (name, timer) ∈ (l.after ms).roster := by
      rw [Loop.roster_after]
      exact (hl.mem_roster name timer).2 hname
    obtain ⟨r, hr, hreg, hn, rfl⟩ := Loop.exists_registration hnd hroster
    obtain ⟨k, hk⟩ := (Loop.onSchedule_of_launch hl).after hlive r hr inc
    exact ⟨hnd, r, hr, hreg, hn, rfl, hk.isFirstAhead inc⟩
  refine ⟨fun hanswers hms => Loop.goesOn_of_launch h hanswers hms, fun hlive => ?_⟩
  obtain ⟨hnd, r, hr, hreg, rfl, rfl, hahead⟩ := hfind h hname hlive
  refine ⟨r, hreg, hahead, ?_, ?_⟩
  · intro now due rs ha
    have hcount := Loop.count_due hnd ha hr
    rw [← Registration.due_iff_reaches hahead, ← List.count_pos_iff, hcount]
    cases r.due now <;> simp
  · intro overlap' timeout' tasks' l' ms' h' hname' hlive' hticks
    obtain ⟨_, r', _, hreg', _, _, hahead'⟩ := hfind h' hname' hlive'
    rw [hreg', Option.map_some, hahead'.unique hahead hticks]

/-- A task that misses three instants while it is paused, and whose clock is then put back. -/
theorem coalescing_of_clock_put_back :
    let l := Loop.auditing .skip (.ofSeconds 30)
    let ms : List Move := [.tick .epoch, .command ⟨0⟩ .pause,
      .tick ⟨3500000000, by decide, by decide⟩, .command ⟨0⟩ (.trigger "audit"), .tick .epoch]
    Loop.launch .skip (.ofSeconds 30) [("audit", Loop.secondly)] .epoch = .ok l ∧
      [("audit", Loop.secondly)].lookup "audit" = some Loop.secondly ∧
      Loop.secondly.Increasing ∧ (l.after ms).GoesOn ∧
      ∃ r, (l.after ms).registration? "audit" = some r ∧
        Loop.secondly.IsFirstAhead .epoch (ticks ms) r.nextFire := by
  intro l ms
  have h := Loop.launch_auditing .skip (.ofSeconds 30)
  have hname : [("audit", Loop.secondly)].lookup "audit" = some Loop.secondly := rfl
  have inc : Loop.secondly.Increasing := Timer.increasing_interval _
  obtain ⟨hgoes, hlaw⟩ := coalescing h hname inc ms
  have hon : (l.after ms).GoesOn := hgoes Loop.answers_of_auditing (by simp [ms])
  obtain ⟨r, hr, hahead, -⟩ := hlaw hon.1
  exact ⟨h, hname, inc, hon, r, hr, hahead⟩

end NodeSidecar
