/-
**A scheduler that tells its bus.**

The loop of the scheduler emits its events one after another and waits for each emission to return;
only then does a fire that it dispatches begin to run.  A fire that ends emits the event that tells
of its end by itself, so that its emission may be under way together with one of the loop and with
those of other fires.  Still, what tells of the begin of a fire has returned before what tells of
its end begins, so that every handler sees them in this order.

Main definitions:

* `Announcing`, `Announcing.Reached` — a scheduler with the history of its bus, and those that there
  are;
* `Returned` — the emission that tells of the begin of a fire has returned.

Main results:

* `Announcing.Reached.sound` — what tells of the end of a fire begins after that;
* `exactly_once_fan_out` — **every handler sees every event once, in the order of registration, and
  the begin of a fire before its end**.
-/

import NodeSidecar.Proofs.Events.Delivery
import NodeSidecar.Proofs.Scheduler.Ledger

set_option autoImplicit false

namespace NodeSidecar

/-- **A scheduler with its bus**: the loop, the history of the bus, and the emission that the loop
waits for, with its event. -/
structure Announcing where
  loop : Loop
  steps : List BusStep := []
  awaited : Option (Nat × Event) := none

namespace Announcing

/-- **The schedulers that there are.** -/
inductive Reached : Announcing → Prop
  /-- No fire is unfinished, and the bus is new. -/
  | start (l : Loop) (idle : l.unfinished = []) : Reached { loop := l }
  /-- The loop, while it waits for no emission, neither begins nor ends a fire. -/
  | quiet {σ : Announcing} {l : Loop} (h : Reached σ) (free : σ.awaited = none)
      (same : l.unfinished = σ.loop.unfinished) : Reached { σ with loop := l }
  /-- The loop dispatches a fire and waits until the event of that has been emitted. -/
  | dispatch {σ : Announcing} {e : Event} (name : String) (source : FireSource) (h : Reached σ)
      (free : σ.awaited = none)
      (told : Effect.events (σ.loop.dispatch name source).2.2 = [e]) :
      Reached { loop := (σ.loop.dispatch name source).2.1, steps := σ.steps ++ [.begin e],
                awaited := some (emissionsIn σ.steps, e) }
  /-- A fire ends, which has begun to run: the loop does not wait for the event of its begin. -/
  | finish {σ : Announcing} {e : Event} (id : FireId) (outcome : Outcome) (h : Reached σ)
      (runs : ∀ n e' task, σ.awaited = some (n, e') → e'.fire? ≠ some (task, id))
      (told : Effect.events (σ.loop.finish id outcome).2 = [e]) :
      Reached { σ with loop := (σ.loop.finish id outcome).1, steps := σ.steps ++ [.begin e] }
  /-- A handler is registered or called, or an emission returns. -/
  | bus {σ : Announcing} {s : Traffic} (m : BusStep) (h : Reached σ) (other : m.begins = false)
      (possible : Traffic.after (σ.steps ++ [m]) = some s) :
      Reached { σ with steps := σ.steps ++ [m]
                       awaited := σ.awaited.filter fun w => m ≠ .close w.1 }

end Announcing

/-- **The emission that tells of the begin of a fire has returned.** -/
def Returned (ms : List BusStep) (task : String) (id : FireId) : Prop :=
  ∃ a source b, ms = a ++ .begin (.fired task id source) :: b ∧ .close (emissionsIn a) ∈ b

theorem Returned.append {ms : List BusStep} {task : String} {id : FireId}
    (h : Returned ms task id) (ns : List BusStep) : Returned (ms ++ ns) task id := by
  obtain ⟨a, source, b, rfl, hclosed⟩ := h
  exact ⟨a, source, b ++ ns, by simp, List.mem_append_left _ hclosed⟩

/-- A step of a history that has one step more. -/
theorem concat_eq_append_cons {ms c d : List BusStep} {m x : BusStep}
    (h : ms ++ [m] = c ++ x :: d) :
    (ms = c ∧ m = x) ∨ ∃ d', d = d' ++ [m] ∧ ms = c ++ x :: d' := by
  rcases List.eq_nil_or_concat d with rfl | ⟨d', y, rfl⟩
  · obtain ⟨rfl, hm⟩ := List.append_inj' h rfl
    exact Or.inl ⟨rfl, List.head_eq_of_cons_eq hm⟩
  · rw [List.concat_eq_append, ← List.cons_append, ← List.append_assoc] at h
    obtain ⟨rfl, hm⟩ := List.append_inj' h rfl
    obtain rfl := List.head_eq_of_cons_eq hm
    exact Or.inr ⟨d', List.concat_eq_append, rfl⟩

namespace Announcing

variable {σ : Announcing}

/-- **What holds of every scheduler with its bus.** -/
structure Sound (σ : Announcing) : Prop where
  /-- The history of the bus is possible. -/
  possible : ∃ s, Traffic.after σ.steps = some s
  /-- What tells of the begin of an unfinished fire has returned, or the loop waits for it. -/
  begun : ∀ task id, (task, id) ∈ σ.loop.unfinished → Returned σ.steps task id ∨
    ∃ a source b, σ.steps = a ++ .begin (.fired task id source) :: b ∧
      σ.awaited = some (emissionsIn a, .fired task id source)
  /-- What tells of the end of a fire began after what tells of its begin had returned. -/
  ended : ∀ c e d id, σ.steps = c ++ .begin e :: d → e.end? = some id → ∃ task, Returned c task id

/-- An emission can begin at any time. -/
theorem Sound.begin_possible (h : Sound σ) (e : Event) :
    ∃ s, Traffic.after (σ.steps ++ [.begin e]) = some s := by
  obtain ⟨s, hs⟩ := h.possible
  exact ⟨_, Traffic.run_concat.2 ⟨s, hs, rfl⟩⟩

/-- One step more keeps what tells of ends behind what tells of begins, if it does. -/
theorem Sound.ended_concat (h : Sound σ) {m : BusStep}
    (hm : ∀ e id, m = .begin e → e.end? = some id → ∃ task, Returned σ.steps task id) :
    ∀ c e d id, σ.steps ++ [m] = c ++ .begin e :: d → e.end? = some id →
      ∃ task, Returned c task id := by
  intro c e d id heq hend
  rcases concat_eq_append_cons heq with ⟨rfl, rfl⟩ | ⟨d', rfl, hsteps⟩
  · exact hm e id rfl hend
  · exact h.ended c e d' id hsteps hend

/-- When the loop waits for nothing, what tells of the begins of unfinished fires has returned. -/
theorem Sound.returned (h : Sound σ) (hfree : σ.awaited = none) {task : String} {id : FireId}
    (hid : (task, id) ∈ σ.loop.unfinished) : Returned σ.steps task id := by
  rcases h.begun task id hid with hreturned | ⟨a, source, b, -, hawaited⟩
  · exact hreturned
  · rw [hfree] at hawaited
    cases hawaited

theorem Sound.dispatch (h : Sound σ) {e : Event} {name : String} {source : FireSource}
    (hfree : σ.awaited = none) (htold : Effect.events (σ.loop.dispatch name source).2.2 = [e]) :
    Sound { loop := (σ.loop.dispatch name source).2.1, steps := σ.steps ++ [.begin e],
            awaited := some (emissionsIn σ.steps, e) } := by
  rcases σ.loop.dispatch_cases name source with
    ⟨_, hd⟩ | ⟨_, _, fx, hd, hfx, _⟩ | ⟨_, _, hd⟩
  · rw [hd] at htold
    cases htold
  · -- the fire is skipped
    rw [hd, hfx] at htold
    obtain rfl : e = .skipped name := by
      split at htold
      · exact (List.head_eq_of_cons_eq htold).symm
      · cases htold
    refine ⟨h.begin_possible _, fun task id hid => ?_, h.ended_concat fun e' id he hend => ?_⟩
    · rw [hd] at hid
      exact Or.inl ((h.returned hfree hid).append _)
    · cases he
      cases hend
  · rw [hd] at htold
    obtain rfl := List.head_eq_of_cons_eq htold
    refine ⟨h.begin_possible _, fun task id hid => ?_, h.ended_concat fun e' id he hend => ?_⟩
    · rw [hd, Loop.unfinished_withFire, List.mem_append, List.mem_singleton] at hid
      rcases hid with hid | hid
      · exact Or.inl ((h.returned hfree hid).append _)
      · obtain ⟨rfl, rfl⟩ := Prod.mk.inj hid
        exact Or.inr ⟨σ.steps, source, [], rfl, rfl⟩
    · cases he
      cases hend

theorem Sound.finish (h : Sound σ) {e : Event} {id : FireId} {outcome : Outcome}
    (hruns : ∀ n e' task, σ.awaited = some (n, e') → e'.fire? ≠ some (task, id))
    (htold : Effect.events (σ.loop.finish id outcome).2 = [e]) :
    Sound { σ with loop := (σ.loop.finish id outcome).1, steps := σ.steps ++ [.begin e] } := by
  rcases σ.loop.finish_cases id outcome with ⟨_, hf⟩ | ⟨task, hopen, hf, he⟩
  · rw [hf] at htold
    cases htold
  · rw [he] at htold
    obtain rfl := List.head_eq_of_cons_eq htold
    refine ⟨h.begin_possible _, fun task' id' hid => ?_, h.ended_concat fun e' id' he' hend => ?_⟩
    · rw [hf, Loop.unfinished_markFinished] at hid
      rcases h.begun task' id' (List.mem_of_mem_filter hid) with
        hreturned | ⟨a, source, b, hsteps, hawaited⟩
      · exact Or.inl (hreturned.append _)
      · exact Or.inr ⟨a, source, b ++ [.begin (outcome.event task id)], by simp [hsteps], hawaited⟩
    · -- the fire was running, so the loop does not wait for the event of its begin any more
      cases he'
      rw [Outcome.end?_event] at hend
      obtain rfl := Option.some.inj hend
      rcases h.begun task id hopen with hreturned | ⟨a, source, b, -, hawaited⟩
      · exact ⟨task, hreturned⟩
      · exact absurd rfl (hruns _ _ task hawaited)

theorem Sound.bus (h : Sound σ) {s : Traffic} {m : BusStep} (hother : m.begins = false)
    (hpossible : Traffic.after (σ.steps ++ [m]) = some s) :
    Sound { σ with steps := σ.steps ++ [m]
                   awaited := σ.awaited.filter fun w => m ≠ .close w.1 } := by
  refine ⟨⟨s, hpossible⟩, fun task id hid => ?_, h.ended_concat fun e id he hend => ?_⟩
  · rcases h.begun task id hid with hreturned | ⟨a, source, b, hsteps, hawaited⟩
    · exact Or.inl (hreturned.append _)
    · have hsteps' : σ.steps ++ [m] = a ++ .begin (.fired task id source) :: (b ++ [m]) := by
        simp [hsteps]
      by_cases hclose : m = .close (emissionsIn a)
      · exact Or.inl ⟨a, source, b ++ [m], hsteps', by simp [hclose]⟩
      · exact Or.inr ⟨a, source, b ++ [m], hsteps', by simp [hawaited, hclose]⟩
  · rw [he] at hother
    cases hother

/-- **What tells of the end of a fire begins when what tells of its begin has returned.** -/
theorem Reached.sound (h : σ.Reached) : Sound σ := by
  induction h with
  | start l hidle =>
      refine ⟨⟨{}, rfl⟩, fun task id hid => ?_, fun c e d id heq => ?_⟩
      · rw [hidle] at hid
        cases hid
      · simp at heq
  | quiet _ hfree hsame ih =>
      exact ⟨ih.possible, fun task id hid => ih.begun task id (hsame ▸ hid), ih.ended⟩
  | dispatch name source _ hfree htold ih => exact ih.dispatch hfree htold
  | finish id outcome _ hruns htold ih => exact ih.finish hruns htold
  | bus m _ hother hpossible ih => exact ih.bus hother hpossible

end Announcing

/-- **Exactly once, in order**:

* whatever the steps of emissions and registrations on a bus, each emission calls the handlers
  registered before it began, in the order of registration, each one once, and no others; and an
  emission that begins when another has returned is seen behind it by every handler;
* the two events of a fire are emitted in this way, whatever else the scheduler emits, so that every
  handler sees the begin of a fire before its end. -/
theorem exactly_once_fan_out :
    (∀ ms s, Traffic.after ms = some s → FanOut ms s) ∧
    ∀ σ : Announcing, σ.Reached → ∃ s, Traffic.after σ.steps = some s ∧
      ∀ c e d id, σ.steps = c ++ .begin e :: d → e.end? = some id →
        ∃ a task source b, c = a ++ .begin (.fired task id source) :: b ∧
          .close (emissionsIn a) ∈ b ∧
          ∀ i < handlersIn a, emissionsIn c ∈ s.seen i →
            [emissionsIn a, emissionsIn c].Sublist (s.seen i) := by
  refine ⟨fun ms s h => Traffic.fanOut_of_after h, fun σ hσ => ?_⟩
  obtain ⟨s, hs⟩ := hσ.sound.possible
  refine ⟨s, hs, fun c e d id hsteps hend => ?_⟩
  obtain ⟨task, a, source, b, rfl, hclosed⟩ := hσ.sound.ended c e d id hsteps hend
  refine ⟨a, task, source, b, rfl, hclosed, fun i hi hseen => ?_⟩
  exact (Traffic.fanOut_of_after hs).afterReturn a _ b e d hsteps hclosed i hi hseen

/-- Two emissions that call a handler in turns, the second one first, and one behind a second
registration; and a fire that ends when the emission that tells of its begin has returned. -/
theorem exactly_once_fan_out_of_turns :
    (∃ s, Traffic.after [.register, .begin (.skipped "a"), .begin (.skipped "b"), .call 1,
          .call 0, .close 0, .close 1, .register, .begin (.skipped "c"), .call 2, .call 2,
          .close 2] = some s ∧
        s.seen 0 = [1, 0, 2] ∧ s.seen 1 = [2] ∧
        FanOut [.register, .begin (.skipped "a"), .begin (.skipped "b"), .call 1,
          .call 0, .close 0, .close 1, .register, .begin (.skipped "c"), .call 2, .call 2,
          .close 2] s) ∧
    ∃ σ : Announcing, σ.Reached ∧
      σ.steps = [.register, .begin (.fired "audit" ⟨1⟩ .manual), .call 0, .close 0] ++
        .begin (.completed "audit" ⟨1⟩ ⟨5⟩) :: [.call 1] ∧
      ∃ s, Traffic.after σ.steps = some s ∧ s.seen 0 = [0, 1] ∧
        ∃ a task source b,
          [.register, .begin (.fired "audit" ⟨1⟩ .manual), .call 0, .close 0] =
            a ++ BusStep.begin (.fired task ⟨1⟩ source) :: b ∧ .close (emissionsIn a) ∈ b := by
  refine ⟨⟨_, rfl, by decide, by decide, exactly_once_fan_out.1 _ _ rfl⟩, ?_⟩
  obtain ⟨σ, hσ, hsteps⟩ : ∃ σ : Announcing, σ.Reached ∧
      σ.steps = [.register, .begin (.fired "audit" ⟨1⟩ .manual), .call 0, .close 0] ++
        .begin (.completed "audit" ⟨1⟩ ⟨5⟩) :: [.call 1] := by
    have hstart : Announcing.Reached { loop := Loop.auditing .skip (.ofSeconds 30) } := .start _ rfl
    have hfired := (hstart.bus .register rfl rfl).dispatch "audit" .manual rfl rfl
    have hclosed := (hfired.bus (.call 0) rfl rfl).bus (.close 0) rfl rfl
    have hended := hclosed.finish ⟨1⟩ (.completed ⟨5⟩) (fun _ _ _ h => by cases h) rfl
    exact ⟨_, hended.bus (.call 1) rfl rfl, rfl⟩
  obtain ⟨s, hs, horder⟩ := exactly_once_fan_out.2 σ hσ
  obtain ⟨a, task, source, b, hc, hreturned, -⟩ := horder _ _ _ ⟨1⟩ hsteps rfl
  refine ⟨σ, hσ, hsteps, s, hs, ?_, a, task, source, b, hc, hreturned⟩
  rw [hsteps] at hs
  obtain rfl := Option.some.inj hs
  decide

end NodeSidecar
