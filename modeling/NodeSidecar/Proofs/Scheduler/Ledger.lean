/-
**The table of fires and the history.**

The loop does not keep its history; it keeps a table of fires, in which a fire that has ended stays
until the next clean-up.  This module proves that the table never loses touch with the history: in
every run its unfinished entries are the unfinished fires that the events tell of, in the same
order.  So every number that is read off the table is a number of fires.

Main definitions:

* `Ledger` — the table of a loop agrees with a history.

Main results:

* `Ledger.inFlight_eq` — the count of the table is the count of the history;
* `Ledger.dispatch`, `Ledger.finish`, `Ledger.move` — what a single move preserves;
* `Ledger.after` — **every run preserves the agreement**;
* `ledger_of_launch` — a run of a scheduler that has just been started.
-/

import NodeSidecar.Proofs.Scheduler.History
import NodeSidecar.Proofs.Scheduler.Registry

set_option autoImplicit false

namespace NodeSidecar

/-- **The table of a loop agrees with a history.** -/
structure Ledger (l : Loop) (es : List Event) : Prop where
  history : History l.overlap es
  /-- The unfinished entries of the table are the unfinished fires. -/
  table : l.unfinished = openFires es
  /-- The next identifier has not been used. -/
  fresh : ∀ id ∈ (firesOf es).map Prod.snd, id.value < l.nextId

/-! ### The table -/

namespace Loop

theorem inFlight_eq_unfinished (l : Loop) (task : String) :
    l.inFlight task = (l.unfinished.filter fun f => f.1 == task).length := by
  simp only [inFlight, unfinished, List.countP_eq_length_filter, List.filter_map, List.length_map,
    List.filter_filter]
  rfl

@[simp] theorem unfinished_withFire (l : Loop) (name : String) :
    (l.withFire name).unfinished = l.unfinished ++ [(name, ⟨l.nextId⟩)] := by
  simp [unfinished, withFire, List.filter_append]

theorem unfinished_markFinished (l : Loop) (id : FireId) :
    (l.markFinished id).unfinished = l.unfinished.filter fun f => decide (f.2 ≠ id) := by
  unfold unfinished markFinished
  induction l.fires with
  | nil => rfl
  | cons f fires ih =>
      -- an entry of the identifier is finished from now on, every other entry stays as it is
      by_cases hid : f.id = id
      · by_cases hf : f.finished = true <;> simp_all
      · by_cases hf : f.finished = true <;> simp_all

/-- The end of a fire marks its entry, if there is an unfinished one. -/
theorem finish_cases (l : Loop) (id : FireId) (outcome : Outcome) :
    ((∀ task, (task, id) ∉ l.unfinished) ∧ l.finish id outcome = (l, [])) ∨
    ∃ task, (task, id) ∈ l.unfinished ∧ (l.finish id outcome).1 = l.markFinished id ∧
      Effect.events (l.finish id outcome).2 = [outcome.event task id] := by
  unfold finish
  cases hf : l.fires.find? fun f => f.id == id && !f.finished with
  | none =>
      refine Or.inl ⟨fun task hm => ?_, rfl⟩
      obtain ⟨f, hfm, he⟩ := List.mem_map.1 hm
      obtain ⟨hft, hfin⟩ := List.mem_filter.1 hfm
      have := List.find?_eq_none.1 hf f hft
      simp_all
  | some f =>
      refine Or.inr ⟨f.task, ?_, rfl, ?_⟩
      · have hp := List.find?_some hf
        have hm := List.mem_of_find?_eq_some hf
        simp only [Bool.and_eq_true, beq_iff_eq] at hp
        refine List.mem_map.2 ⟨f, List.mem_filter.2 ⟨hm, hp.2⟩, ?_⟩
        rw [hp.1]
      · rw [Effect.events_append]
        cases outcome with
        | completed duration => rfl
        | failed message => rfl
        | panicked message? => rfl

end Loop

/-! ### What a move preserves -/

namespace Ledger

variable {l l' : Loop} {es : List Event}

/-- **The count of the table is the count of the history.** -/
theorem inFlight_eq (h : Ledger l es) (task : String) :
    l.inFlight task = (openFiresOf task es).length := by
  rw [l.inFlight_eq_unfinished, h.table, openFiresOf]

theorem inFlight_pos (h : Ledger l es) (task : String) :
    0 < l.inFlight task ↔ openFiresOf task es ≠ [] := by
  rw [h.inFlight_eq, List.length_pos_iff]

/-- The agreement is about the policy, the unfinished entries and the next identifier only. -/
theorem congr (h : Ledger l es) (ho : l'.overlap = l.overlap)
    (hu : l'.unfinished = l.unfinished) (hn : l'.nextId = l.nextId) : Ledger l' es :=
  ⟨ho ▸ h.history, hu.trans h.table, fun id hid => hn ▸ h.fresh id hid⟩

theorem next_fresh (h : Ledger l es) : (⟨l.nextId⟩ : FireId) ∉ (firesOf es).map Prod.snd :=
  fun hm => Nat.lt_irrefl _ (h.fresh _ hm)

theorem dispatch (h : Ledger l es) (name : String) (source : FireSource) :
    Ledger (l.dispatch name source).2.1 (es ++ Effect.events (l.dispatch name source).2.2) := by
  rcases l.dispatch_cases name source with ⟨_, hd⟩ | ⟨_, ⟨ho, hpos⟩, fx, hd, hfx, _⟩ | ⟨_, hno, hd⟩
  · rw [hd]; simpa using h
  · rw [hd, hfx]
    cases source with
    | manual => simpa using h
    | timer =>
        have hskip := History.skipped h.history ho ((h.inFlight_pos name).1 hpos)
        exact ⟨hskip, by simpa using h.table, by simpa using h.fresh⟩
  · rw [hd]
    have hid := h.next_fresh
    refine ⟨?_, ?_, ?_⟩
    · refine History.fired source h.history hid fun ho => ?_
      by_contra hne
      exact hno ⟨ho, (h.inFlight_pos name).2 hne⟩
    · simp only [Loop.unfinished_withFire, Effect.events_cons_event, Effect.events_nil]
      rw [h.table, openFires_fired (h.history.not_mem_ends hid)]
    · intro id hm
      simp only [Effect.events_cons_event, Effect.events_nil, firesOf_append, firesOf_fired,
        List.map_append, List.mem_append, List.map_cons, List.map_nil, List.mem_singleton] at hm
      change id.value < l.nextId + 1
      rcases hm with hm | rfl
      · exact Nat.lt_succ_of_lt (h.fresh id hm)
      · exact Nat.lt_succ_self _

theorem dispatchDue (h : Ledger l es) (names : List String) :
    Ledger (l.dispatchDue names).1 (es ++ Effect.events (l.dispatchDue names).2) := by
  induction names generalizing l es with
  | nil => simpa using h
  | cons name names ih =>
      rw [Loop.dispatchDue_cons, Effect.events_append, ← List.append_assoc]
      exact ih (h.dispatch name .timer)

theorem finish (h : Ledger l es) (id : FireId) (outcome : Outcome) :
    Ledger (l.finish id outcome).1 (es ++ Effect.events (l.finish id outcome).2) := by
  rcases l.finish_cases id outcome with ⟨_, hf⟩ | ⟨task, hm, hl, he⟩
  · rw [hf]; simpa using h
  · rw [hl, he]
    refine ⟨History.ended outcome h.history (h.table ▸ hm), ?_, ?_⟩
    · rw [Loop.unfinished_markFinished, h.table, openFires_event]
    · rw [firesOf_append, firesOf_event, List.append_nil]
      exact h.fresh

theorem move (h : Ledger l es) (m : Move) :
    Ledger (l.move m).1 (es ++ Effect.events (l.move m).2) := by
  have hm := l.moved m
  generalize (l.move m).1 = l', Effect.events (l.move m).2 = fs at hm
  cases hm with
  | @ticked now due rs _ _ =>
      have hrs : Ledger { l with registrations := rs } es := h.congr rfl rfl rfl
      exact (hrs.dispatchDue _).congr rfl (Loop.unfinished_cleanUp _) rfl
  | triggered => exact h.dispatch _ _
  | ended => exact h.finish _ _
  | quiet hq => simpa using h.congr hq.overlap hq.unfinished hq.nextId

/-- **Every run preserves the agreement.** -/
theorem after (h : Ledger l es) (ms : List Move) :
    Ledger (l.after ms) (es ++ l.history ms) := by
  induction ms generalizing l es with
  | nil => simpa using h
  | cons m ms ih =>
      rw [Loop.after_cons, Loop.history_cons, ← List.append_assoc]
      exact ih (h.move m)

end Ledger

variable {overlap : OverlapPolicy} {timeout : Duration} {tasks : List (String × Timer)}
  {start : Instant} {l : Loop}

/-- A run of a scheduler that has just been started: its table agrees with its events. -/
theorem ledger_of_launch (h : Loop.launch overlap timeout tasks start = .ok l) (ms : List Move) :
    Ledger (l.after ms) (l.history ms) := by
  have hl := Loop.launched h
  have hstart : Ledger l [] := by
    refine ⟨.nil, ?_, by simp⟩
    simp [Loop.unfinished, hl.fires]
  simpa using hstart.after ms

/-- A scheduler that has just been started keeps its policy. -/
theorem overlap_of_launch (h : Loop.launch overlap timeout tasks start = .ok l) (ms : List Move) :
    (l.after ms).overlap = overlap := by
  rw [Loop.overlap_after, (Loop.launched h).overlap]

end NodeSidecar
