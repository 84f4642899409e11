/-
**No task overlaps with itself.**

Under the skipping policy a task is not dispatched while the table has an unfinished fire of it.
Since the table agrees with the history, this bounds the fires themselves: at no moment, not even
between the dispatches of one tick, are two fires of a task unfinished, whether their timer or a
trigger began them.  The list of the tasks counts the same fires, however many entries of ended
fires the table still holds.

Main results:

* `Ledger.statuses` — the list of the tasks counts unfinished fires;
* `overlap_safety` — the bound and the count, for every run.
-/

import NodeSidecar.Proofs.Scheduler.Ledger

set_option autoImplicit false

namespace NodeSidecar

/-- The list of the tasks counts the unfinished fires of the history, task by task. -/
theorem Ledger.statuses {l : Loop} {es : List Event} (h : Ledger l es) :
    l.statuses.map TaskStatus.name = l.taskNames ∧
      ∀ s ∈ l.statuses, s.inFlight = (openFiresOf s.name es).length := by
  constructor
  · simp [Loop.statuses, Loop.taskNames]
  · intro s hs
    obtain ⟨r, _, rfl⟩ := List.mem_map.1 hs
    exact h.inFlight_eq r.name

/-- **Overlap safety**: after every run under the skipping policy,

* no task has two unfinished fires, now or at any earlier moment of the history;
* the table counts for each task its unfinished fires;
* a loop that still answers lists every registered task once, with the number of its unfinished
  fires. -/
theorem overlap_safety {timeout : Duration} {tasks : List (String × Timer)} {start : Instant}
    {l : Loop} (h : Loop.launch .skip timeout tasks start = .ok l) (ms : List Move) :
    (∀ task es, es <+: l.history ms → (openFiresOf task es).length ≤ 1) ∧
    (∀ task, (l.after ms).inFlight task = (openFiresOf task (l.history ms)).length ∧
      (l.after ms).inFlight task ≤ 1) ∧
    ((l.after ms).phase = .live → ∀ now, ∃ statuses,
      (l.after ms).command now .tasks = (.statuses statuses, l.after ms, []) ∧
      (statuses.map TaskStatus.name).Nodup ∧
      (∀ task, task ∈ statuses.map TaskStatus.name ↔ task ∈ tasks.map Prod.fst) ∧
      ∀ s ∈ statuses, s.inFlight = (openFiresOf s.name (l.history ms)).length) := by
  have hl := Loop.launched h
  have hled := ledger_of_launch h ms
  have hhist : History .skip (l.history ms) := overlap_of_launch h ms ▸ hled.history
  have hle : ∀ task es, es <+: l.history ms → (openFiresOf task es).length ≤ 1 := by
    rintro task es ⟨fs, hfs⟩
    rw [← hfs] at hhist
    exact (hhist.left_of_append fs).length_openFiresOf_le_one task
  refine ⟨hle, fun task => ⟨hled.inFlight_eq task, ?_⟩, fun hlive now => ?_⟩
  · rw [hled.inFlight_eq]
    exact hle task _ List.prefix_rfl
  · obtain ⟨hnames, hcount⟩ := hled.statuses
    rw [Loop.taskNames_after] at hnames
    refine ⟨(l.after ms).statuses, ?_, ?_, ?_, hcount⟩
    · rw [Loop.command, hlive]
    · rw [hnames]
      exact hl.nodup_taskNames
    · intro task
      rw [hnames]
      exact hl.mem_taskNames

/-- A task that is due, is triggered while it runs, panics, and is triggered again while its ended
fire is still in the table. -/
theorem overlap_safety_of_ended_fire :
    let l := Loop.auditing .skip (.ofSeconds 30)
    let ms : List Move := [.tick .epoch, .command ⟨0⟩ (.trigger "audit"),
      .finish ⟨1⟩ (.panicked none), .command ⟨0⟩ (.trigger "audit"), .tick .epoch]
    Loop.launch .skip (.ofSeconds 30) [("audit", Loop.secondly)] .epoch = .ok l ∧
      (openFiresOf "audit" (l.history ms)).length ≤ 1 ∧ (l.after ms).inFlight "audit" ≤ 1 := by
  intro l ms
  have h := Loop.launch_auditing .skip (.ofSeconds 30)
  obtain ⟨hle, hcount, -⟩ := overlap_safety h ms
  exact ⟨h, hle "audit" _ List.prefix_rfl, (hcount "audit").2⟩

end NodeSidecar
