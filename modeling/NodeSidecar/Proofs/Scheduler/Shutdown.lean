/-
**Shutdown is final.**

A shutdown is one command among others.  What came into the queue before it has its answer when the
loop takes it; what comes in behind it, or is sent later, is told that there is no loop to answer.
The scheduler has stopped from then on, nothing is dispatched, and the shutdown itself is answered
when no fire is unfinished any more, or when the time for that is up.

Main definitions:

* `AllEnded` — every fire of a list of events has ended;
* `Mailbox.Unserved` — an answer that tells that there is no loop;
* `Mailbox.Told` — a command that has such an answer;
* `Mailbox.Stopping` — a mailbox after the loop has taken a shutdown.

Main results:

* `Mailbox.step_of_not_live`, `Mailbox.answers_step` — a step when the loop does not go on, and the
  answers that it adds;
* `Mailbox.Stopping.step`, `Mailbox.Stopping.after` — **a loop that shuts down stays so**;
* `Mailbox.Stopping.told_after` — what is under way, or sent later, is told that there is no loop;
* `Mailbox.Stopping.answered` — the step that answers the shutdown;
* `shutdown_is_final` — **all of this, for every run before and after**.
-/

import NodeSidecar.Proofs.Scheduler.Commands

set_option autoImplicit false

namespace NodeSidecar

/-- **Every fire of a list of events has ended** in it. -/
def AllEnded (es : List Event) : Prop :=
  ∀ task id source, .fired task id source ∈ es → ∃ e ∈ es, e.end? = some id

theorem allEnded_iff {es : List Event} : AllEnded es ↔ openFires es = [] := by
  have hends (id : FireId) : id ∈ endsOf es ↔ ∃ e ∈ es, e.end? = some id := List.mem_filterMap
  constructor
  · intro h
    refine List.eq_nil_iff_forall_not_mem.2 fun f hf => ?_
    obtain ⟨hfire, hopen⟩ := mem_openFires.1 hf
    obtain ⟨source, hmem⟩ := mem_firesOf.1 hfire
    exact hopen ((hends f.2).2 (h f.1 f.2 source hmem))
  · intro h task id source hmem
    by_contra hno
    have hf : (task, id) ∈ openFires es :=
      mem_openFires.2 ⟨mem_firesOf.2 ⟨source, hmem⟩, mt (hends id).1 hno⟩
    rw [h] at hf
    cases hf

namespace Mailbox

variable {m : Mailbox}

/-! ### The last answers -/

/-- **An answer that tells that there is no loop** to give another one. -/
def Unserved (a : Nat × Reply) : Prop := ∃ x : Letter, a = x.dropped ∨ a = x.refused

theorem not_unserved_done (k : Nat) : ¬ Unserved (k, .done) := by
  rintro ⟨x, h | h⟩
  · cases h
  · cases h

theorem Served.not_unserved {l : Loop} {ms : List Move} {x : Letter} {a : Nat × Reply}
    (h : Served l ms x a) (hlive : (l.after ms).phase = .live) : ¬ Unserved a := by
  rintro ⟨y, rfl | rfl⟩
  · exact h.ne_channelError hlive _ rfl
  · exact h.ne_channelError hlive _ rfl

/-- The end of the loop answers the command that it carried out, and tells all others. -/
theorem answers_settle (m : Mailbox) :
    ∃ new, m.settle.answers = m.answers ++ new ∧ ∀ a ∈ new, Unserved a ∨
      ∃ y, m.closing = some y ∧ a = y.done ∧ m.loop.phase = .ended := by
  unfold settle
  split
  · next hended =>
    refine ⟨m.closing.toList.map Letter.done ++ (m.queue.map Letter.dropped ++
      m.waiting.map Letter.refused), by simp only [List.append_assoc], fun a ha => ?_⟩
    simp only [List.mem_append, List.mem_map, Option.mem_toList] at ha
    rcases ha with ⟨y, hy, rfl⟩ | ⟨y, _, rfl⟩ | ⟨y, _, rfl⟩
    · exact Or.inr ⟨y, hy, rfl, hended⟩
    · exact Or.inl ⟨y, Or.inl rfl⟩
    · exact Or.inl ⟨y, Or.inr rfl⟩
  · exact ⟨[], by simp, by simp⟩

/-- **A command that was told that there is no loop** to answer it. -/
def Told (m : Mailbox) (x : Letter) : Prop := x.dropped ∈ m.answers ∨ x.refused ∈ m.answers

/-- What was told stays told. -/
theorem Told.of_answers {m' : Mailbox} {x : Letter} (h : m.Told x) {new : List (Nat × Reply)}
    (hnew : m'.answers = m.answers ++ new) : m'.Told x := by
  rw [Told, hnew]
  exact h.imp (List.mem_append_left new) (List.mem_append_left new)

/-- The end of the loop leaves no command under way untold. -/
theorem told_settle {x : Letter} (hx : x ∈ m.underWay) :
    x ∈ m.settle.underWay ∨ m.settle.Told x := by
  unfold settle
  split
  · refine Or.inr ?_
    rcases List.mem_append.1 hx with hx | hx
    · exact Or.inl (List.mem_append_left _ (List.mem_append_right _ (List.mem_map_of_mem hx)))
    · exact Or.inr (List.mem_append_right _ (List.mem_map_of_mem hx))
  · exact Or.inl hx

theorem closing_settle (m : Mailbox) :
    m.settle.closing = m.closing ∨ m.settle.closing = none := by
  unfold settle
  split
  · exact Or.inr rfl
  · exact Or.inl rfl

/-! ### Steps of a loop that does not go on -/

/-- **A step of a loop that does not go on** answers nothing and takes no command, unless the loop
ends. -/
theorem step_of_not_live (hp : m.loop.phase ≠ .live) (x : Step) :
    ∃ m' : Mailbox, m'.answers = m.answers ∧ m'.closing = m.closing ∧
      m'.underWay.Perm (m.underWay ++ m.sending x) ∧
      ((m.step x).1 = m' ∨ (m.step x).1 = m'.settle) := by
  have hnone (h : m.sending x = []) {m' : Mailbox} (h' : m'.underWay.Perm m.underWay) :
      m'.underWay.Perm (m.underWay ++ m.sending x) := by
    rwa [h, List.append_nil]
  cases x with
  | ask c =>
      refine ⟨{ m with waiting := m.waiting ++ [⟨m.asked, c⟩], asked := m.asked + 1 }, rfl, rfl, ?_,
        Or.inr rfl⟩
      rw [underWay, underWay, sending, List.append_assoc]
  | enter i =>
      obtain ⟨waiting, queue, henter⟩ := m.enter_eq i
      exact ⟨m.enter i, by rw [henter], by rw [henter], hnone rfl (m.underWay_enter i), Or.inl rfl⟩
  | take now =>
      rcases m.take_cases now with ⟨_, htake, _⟩ | ⟨_, _, hlive, _⟩
      · exact ⟨m, rfl, rfl, hnone rfl (.refl _), Or.inl (by rw [Mailbox.step, htake])⟩
      · exact absurd hlive hp
  | tick now =>
      exact ⟨{ m with loop := (m.loop.tick now).1 }, rfl, rfl, hnone rfl (.refl _), Or.inr rfl⟩
  | finish id outcome =>
      exact ⟨{ m with loop := (m.loop.finish id outcome).1 }, rfl, rfl, hnone rfl (.refl _),
        Or.inr rfl⟩
  | look now =>
      exact ⟨{ m with loop := (m.loop.look now).1 }, rfl, rfl, hnone rfl (.refl _), Or.inr rfl⟩

/-- **The answers that a step adds** when the loop does not go on. -/
theorem answers_step (hp : m.loop.phase ≠ .live) (x : Step) :
    ∃ new, (m.step x).1.answers = m.answers ++ new ∧ ∀ a ∈ new, Unserved a ∨
      ∃ y, m.closing = some y ∧ a = y.done ∧ (m.step x).1.loop.phase = .ended := by
  obtain ⟨m', hanswers, hclosing, -, hstep | hstep⟩ := step_of_not_live hp x
  · exact ⟨[], by rw [hstep, hanswers, List.append_nil], by simp⟩
  · rw [hstep, ← hanswers, ← hclosing, loop_settle]
    exact m'.answers_settle

/-- A step of a loop that does not go on gives it no other command to carry out. -/
theorem closing_step (hp : m.loop.phase ≠ .live) (x : Step) :
    (m.step x).1.closing = m.closing ∨ (m.step x).1.closing = none := by
  obtain ⟨m', -, hclosing, -, hstep | hstep⟩ := step_of_not_live hp x
  · rw [hstep]
    exact Or.inl hclosing
  · rw [hstep, ← hclosing]
    exact m'.closing_settle

/-- A step of a loop that does not go on leaves a command under way, or tells it that there is no
loop. -/
theorem told_step (hp : m.loop.phase ≠ .live) (x : Step) {y : Letter}
    (hy : y ∈ m.underWay ++ m.sending x) :
    y ∈ (m.step x).1.underWay ∨ (m.step x).1.Told y := by
  obtain ⟨m', -, -, hperm, hstep | hstep⟩ := step_of_not_live hp x
  · rw [hstep]
    exact Or.inl (hperm.mem_iff.2 hy)
  · rw [hstep]
    exact told_settle (hperm.mem_iff.2 hy)

/-- What the loop sees of a step when it does not go on. -/
theorem moves_of_not_live (hp : m.loop.phase ≠ .live) (x : Step) :
    m.moves x = [] ∨ ∃ mv, m.moves x = [mv] ∧ ∀ t, mv = .look t → x = .look t := by
  cases x with
  | ask c => exact Or.inl rfl
  | enter i => exact Or.inl rfl
  | take now =>
      rcases m.take_cases now with ⟨_, _, hmoves⟩ | ⟨_, _, hlive, _⟩
      · exact Or.inl hmoves
      · exact absurd hlive hp
  | tick now => exact Or.inr ⟨_, rfl, fun t h => by cases h⟩
  | finish id outcome => exact Or.inr ⟨_, rfl, fun t h => by cases h⟩
  | look now => exact Or.inr ⟨_, rfl, fun t h => by cases h; rfl⟩

/-! ### A loop that shuts down -/

/-- **A mailbox after the loop has taken a shutdown** with the given number, at the given time. -/
structure Stopping (k : Nat) (now : Duration) (m : Mailbox) : Prop where
  tidy : m.Tidy
  state : m.loop.state = .stopped
  phase : m.loop.phase = .ended ∨ ∃ deadline, m.loop.phase = .draining now deadline ∧
    deadline.nanos = now.nanos + m.loop.shutdownTimeout.nanos
  closing : ∀ y, m.closing = some y → y.number = k

namespace Stopping

variable {k : Nat} {now : Duration}

theorem not_live (h : Stopping k now m) : m.loop.phase ≠ .live := by
  rcases h.phase with hp | ⟨deadline, hp, _⟩
  · simp [hp]
  · simp [hp]

/-- The loop after a step: it is the same, or it has made a move. -/
theorem loop_step_cases (h : Stopping k now m) (x : Step) :
    (m.step x).1.loop = m.loop ∨ ∃ mv, (m.step x).1.loop = (m.loop.move mv).1 ∧
      ∀ t, mv = .look t → x = .look t := by
  rw [(m.loop_step x).1]
  rcases m.moves_of_not_live h.not_live x with hmoves | ⟨mv, hmoves, hlook⟩
  · rw [hmoves]
    exact Or.inl rfl
  · rw [hmoves]
    exact Or.inr ⟨mv, rfl, hlook⟩

/-- **A step leaves a loop that shuts down as it is**, and tells of ends of fires only. -/
theorem step (h : Stopping k now m) (x : Step) : Stopping k now (m.step x).1 where
  tidy := h.tidy.step x
  state := by
    rcases h.loop_step_cases x with heq | ⟨mv, heq, _⟩
    · rw [heq]
      exact h.state
    · rw [heq, (Loop.move_of_not_live h.not_live mv).1]
      exact h.state
  phase := by
    rcases h.loop_step_cases x with heq | ⟨mv, heq, _⟩
    · rw [heq]
      exact h.phase
    · rw [heq, Loop.shutdownTimeout_move]
      rcases h.phase with hp | ⟨deadline, hp, hnanos⟩
      · exact Or.inl (Loop.phase_move_of_ended hp mv)
      · rcases Loop.phase_move_of_draining hp mv with hsame | ⟨hended, _⟩
        · exact Or.inr ⟨deadline, hsame, hnanos⟩
        · exact Or.inl hended
  closing y hy := by
    rcases m.closing_step h.not_live x with hsame | hnone
    · exact h.closing y (hsame ▸ hy)
    · rw [hnone] at hy
      cases hy

theorem after (h : Stopping k now m) (xs : List Step) : Stopping k now (m.after xs) := by
  induction xs generalizing m with
  | nil => exact h
  | cons x xs ih => exact ih (h.step x)

/-- Nothing is dispatched any more. -/
theorem end?_of_history (h : Stopping k now m) (xs : List Step) :
    ∀ e ∈ m.history xs, ∃ id, e.end? = some id := by
  induction xs generalizing m with
  | nil => exact fun e he => absurd he List.not_mem_nil
  | cons x xs ih =>
      intro e he
      rw [history_cons, (m.loop_step x).2] at he
      rcases List.mem_append.1 he with he | he
      · rcases m.moves_of_not_live h.not_live x with hmoves | ⟨mv, hmoves, _⟩
        · rw [hmoves] at he
          cases he
        · rw [hmoves, Loop.history_cons, Loop.history_nil, List.append_nil] at he
          exact (Loop.move_of_not_live h.not_live mv).2.2 e he
      · exact ih (h.step x) e he

/-- The answers that a run adds: to the shutdown, or those that tell that there is no loop. -/
theorem answers_after (h : Stopping k now m) (xs : List Step) :
    ∃ new, (m.after xs).answers = m.answers ++ new ∧ ∀ a ∈ new, a = (k, .done) ∨ Unserved a := by
  induction xs generalizing m with
  | nil => exact ⟨[], by rw [List.append_nil]; rfl, by simp⟩
  | cons x xs ih =>
      obtain ⟨new, hnew, hall⟩ := m.answers_step h.not_live x
      obtain ⟨more, hmore, hrest⟩ := ih (h.step x)
      refine ⟨new ++ more, by rw [after_cons, hmore, hnew, List.append_assoc], fun a ha => ?_⟩
      rcases List.mem_append.1 ha with ha | ha
      · rcases hall a ha with hun | ⟨y, hy, rfl, _⟩
        · exact Or.inr hun
        · left
          rw [Letter.done, h.closing y hy]
      · exact hrest a ha

/-- **What is under way, or sent later**, is told that there is no loop, unless it stays under
way. -/
theorem told_after (h : Stopping k now m) (xs : List Step) {y : Letter}
    (hy : y ∈ m.underWay ++ m.sent xs) :
    y ∈ (m.after xs).underWay ∨ (m.after xs).Told y := by
  induction xs generalizing m with
  | nil =>
      rw [sent, List.append_nil] at hy
      exact Or.inl hy
  | cons x xs ih =>
      rw [sent, ← List.append_assoc] at hy
      rcases List.mem_append.1 hy with hy | hy
      · rcases told_step h.not_live x hy with hleft | htold
        · exact ih (h.step x) (List.mem_append_left _ hleft)
        · obtain ⟨new, hnew, _⟩ := (h.step x).answers_after xs
          exact Or.inr (htold.of_answers hnew)
      · exact ih (h.step x) (List.mem_append_right _ hy)

/-- **The step that answers the shutdown** is a look that finds no unfinished fire, or that the time
is up. -/
theorem answered (h : Stopping k now m) {x : Step} (hno : (k, .done) ∉ m.answers)
    (hyes : (k, .done) ∈ (m.step x).1.answers) : ∃ t, x = .look t ∧
      (m.loop.unfinished = [] ∨ now.nanos + m.loop.shutdownTimeout.nanos ≤ t.nanos) := by
  obtain ⟨new, hnew, hall⟩ := m.answers_step h.not_live x
  rw [hnew] at hyes
  rcases hall _ ((List.mem_append.1 hyes).resolve_left hno) with hun | ⟨y, hy, _, hended⟩
  · exact absurd hun (not_unserved_done k)
  · -- a command is still carried out, so the loop has not ended before
    rcases h.phase with hp | ⟨deadline, hp, hnanos⟩
    · rw [(h.tidy.ended hp).2.2] at hy
      cases hy
    · rcases h.loop_step_cases x with heq | ⟨mv, heq, hlook⟩
      · rw [heq, hp] at hended
        cases hended
      · rw [heq] at hended
        rcases Loop.phase_move_of_draining hp mv with hsame | ⟨_, t, hmv, hover⟩
        · rw [hsame] at hended
          cases hended
        · exact ⟨t, hlook t hmv, hnanos ▸ hover⟩

/-- A look ends the loop if no fire is unfinished or the time is up. -/
theorem ended_of_look (h : Stopping k now m) {t : Duration}
    (hover : m.loop.unfinished = [] ∨ now.nanos + m.loop.shutdownTimeout.nanos ≤ t.nanos) :
    (m.step (.look t)).1.loop.phase = .ended := by
  rw [(m.loop_step (.look t)).1]
  change (m.loop.look t).1.phase = .ended
  rcases h.phase with hp | ⟨deadline, hp, hnanos⟩
  · exact Loop.phase_move_of_ended hp (.look t)
  · rw [Loop.phase_look hp, hnanos, if_pos hover]

end Stopping

/-! ### The shutdown is taken -/

/-- What comes of a shutdown that is taken. -/
theorem take_shutdown (hlive : m.loop.phase = .live) {k : Nat} {behind : List Letter}
    (hqueue : m.queue = ⟨k, .shutdown⟩ :: behind) (now : Duration) :
    m.step (.take now) =
      (settle (answer { m with loop := (m.loop.shutDown now).2.1, queue := behind } ⟨k, .shutdown⟩
        (m.loop.shutDown now).1), (m.loop.shutDown now).2.2) := by
  have hcommand : m.loop.command now .shutdown = m.loop.shutDown now := by rw [Loop.command, hlive]
  rcases m.take_cases now with ⟨hnot | hnil, _, _⟩ | ⟨x, queue, _, hx, htake, _⟩
  · exact absurd hlive hnot
  · rw [hqueue] at hnil
    cases hnil
  · rw [hqueue] at hx
    obtain ⟨rfl, rfl⟩ := List.cons.inj hx
    rw [Mailbox.step, htake, hcommand]

/-- **The loop that takes a shutdown** stops, and tells of nothing. -/
theorem stopping_of_take (h : m.Tidy) (hlive : m.loop.phase = .live) {k : Nat}
    {behind : List Letter} (hqueue : m.queue = ⟨k, .shutdown⟩ :: behind) (now : Duration) :
    Stopping k now (m.step (.take now)).1 ∧ Effect.events (m.step (.take now)).2 = [] := by
  have htidy := h.step (.take now)
  have htimeout : (m.loop.shutDown now).2.1.shutdownTimeout = m.loop.shutdownTimeout := by
    have hcommand := m.loop.shutdownTimeout_command now .shutdown
    rwa [Loop.command, hlive] at hcommand
  rw [take_shutdown hlive hqueue now] at htidy ⊢
  refine ⟨⟨htidy, ?_, ?_, fun y hy => ?_⟩, (m.loop.quiet_shutDown now).2⟩
  · rw [loop_settle, loop_answer]
    exact (m.loop.shutDown_stopped now).1
  · rw [loop_settle, loop_answer]
    change (m.loop.shutDown now).2.1.phase = .ended ∨ _
    rw [htimeout]
    rcases m.loop.shutDown_cases now with ⟨_, hended, _⟩ | ⟨_, hdrain⟩ | ⟨_, hended⟩
    · exact Or.inl hended
    · exact Or.inr hdrain
    · exact Or.inl hended
  · -- the only command that can be carried out is the shutdown itself
    have hclosing := h.live hlive
    by_cases hr : (m.loop.shutDown now).1 = .pending
    · rw [hr, settle] at hy
      split at hy
      · cases hy
      · rw [← Option.some.inj hy]
    · rw [answer_of_ne_pending hr, settle] at hy
      split at hy
      · cases hy
      · rw [hclosing] at hy
        cases hy

/-- **The answers that a shutdown adds**: it is answered at once only if no fire is unfinished or
the time is up at once. -/
theorem answers_take (h : m.Tidy) (hlive : m.loop.phase = .live) {k : Nat} {behind : List Letter}
    (hqueue : m.queue = ⟨k, .shutdown⟩ :: behind) (now : Duration) :
    ∃ new, (m.step (.take now)).1.answers = m.answers ++ new ∧ ∀ a ∈ new,
      (a = (k, .done) ∧ (m.loop.unfinished = [] ∨
        now.nanos + m.loop.shutdownTimeout.nanos ≤ now.nanos)) ∨ Unserved a := by
  have hclosing := h.live hlive
  rw [take_shutdown hlive hqueue now]
  rcases m.loop.shutDown_cases now with ⟨hreply, _, hover⟩ | ⟨hreply, deadline, hdrain, _⟩ |
    ⟨hreply, _⟩
  · -- it is answered at once, and the end of the loop answers all others
    rw [hreply, answer_of_ne_pending (by simp)]
    obtain ⟨new, hnew, hall⟩ := answers_settle { m with
      loop := (m.loop.shutDown now).2.1, queue := behind, answers := m.answers ++ [(k, .done)] }
    refine ⟨(k, .done) :: new, by rw [hnew, List.append_assoc]; rfl, fun a ha => ?_⟩
    rcases List.mem_cons.1 ha with rfl | ha
    · exact Or.inl ⟨rfl, hover⟩
    · rcases hall a ha with hun | ⟨y, hy, _⟩
      · exact Or.inr hun
      · exact absurd (hclosing.symm.trans hy) (by simp)
  · -- the loop waits, and nothing is answered yet
    refine ⟨[], ?_, by simp⟩
    rw [hreply, settle, if_neg (by simp [answer, hdrain]), List.append_nil]
    rfl
  · -- the loop ends without waiting, and the shutdown loses the place of its answer
    rw [hreply, answer_of_ne_pending (by simp)]
    have hdropped : (k, Reply.failed (.channelError "scheduler loop dropped the shut down reply")) =
        Letter.dropped ⟨k, .shutdown⟩ := rfl
    obtain ⟨new, hnew, hall⟩ := answers_settle { m with
      loop := (m.loop.shutDown now).2.1, queue := behind,
      answers := m.answers ++ [Letter.dropped ⟨k, .shutdown⟩] }
    refine ⟨Letter.dropped ⟨k, .shutdown⟩ :: new, ?_, fun a ha => ?_⟩
    · rw [hdropped, hnew, List.append_assoc]
      rfl
    · rcases List.mem_cons.1 ha with rfl | ha
      · exact Or.inr ⟨_, Or.inl rfl⟩
      · rcases hall a ha with hun | ⟨y, hy, _⟩
        · exact Or.inr hun
        · exact absurd (hclosing.symm.trans hy) (by simp)

/-- **What is behind the shutdown, waits for room, or is sent later** is told that there is no loop
when the loop has ended. -/
theorem told_of_take (h : m.Tidy) (hlive : m.loop.phase = .live) {k : Nat} {behind : List Letter}
    (hqueue : m.queue = ⟨k, .shutdown⟩ :: behind) {now : Duration} {later : List Step}
    (hended : (m.after (.take now :: later)).loop.phase = .ended) {y : Letter}
    (hy : y ∈ behind ++ m.waiting ++ m.sent (.take now :: later)) :
    (m.after (.take now :: later)).Told y := by
  obtain ⟨hstopping, _⟩ := stopping_of_take h hlive hqueue now
  have hfirst (hy : y ∈ behind ++ m.waiting) :
      y ∈ (m.step (.take now)).1.underWay ∨ (m.step (.take now)).1.Told y := by
    rw [take_shutdown hlive hqueue]
    refine told_settle ?_
    cases (m.loop.shutDown now).1 <;> exact hy
  have hlast : y ∈ (m.after (.take now :: later)).underWay ∨
      (m.after (.take now :: later)).Told y := by
    rcases List.mem_append.1 hy with hy | hy
    · rcases hfirst hy with hleft | htold
      · exact hstopping.told_after later (List.mem_append_left _ hleft)
      · obtain ⟨new, hnew, _⟩ := hstopping.answers_after later
        exact Or.inr (htold.of_answers hnew)
    · exact hstopping.told_after later (List.mem_append_right _ hy)
  refine hlast.resolve_left fun hleft => ?_
  obtain ⟨hwaiting, hnone, _⟩ := (hstopping.after later).tidy.ended hended
  change y ∈ (m.after (.take now :: later)).queue ++ (m.after (.take now :: later)).waiting at hleft
  change (m.after (.take now :: later)).waiting = [] at hwaiting
  change (m.after (.take now :: later)).queue = [] at hnone
  rw [hwaiting, hnone] at hleft
  cases hleft

/-- **The step that answers the shutdown**, from the one that takes it on: it finds no unfinished
fire, or that the time is up. -/
theorem answered_of_take (h : m.Tidy) (hlive : m.loop.phase = .live) {k : Nat}
    {behind : List Letter} (hqueue : m.queue = ⟨k, .shutdown⟩ :: behind) {now : Duration}
    {later p q : List Step} {x : Step} (hsplit : .take now :: later = p ++ x :: q)
    (hno : (k, .done) ∉ (m.after p).answers) (hyes : (k, .done) ∈ (m.after (p ++ [x])).answers) :
    ∃ t, (x = .take t ∨ x = .look t) ∧ ((m.after p).loop.unfinished = [] ∨
      now.nanos + (m.after p).loop.shutdownTimeout.nanos ≤ t.nanos) := by
  cases p with
  | nil =>
      obtain ⟨rfl, rfl⟩ := List.cons.inj hsplit
      obtain ⟨new, hnew, hall⟩ := answers_take h hlive hqueue now
      rw [List.nil_append, after_cons] at hyes
      change (k, Reply.done) ∈ (m.step (.take now)).1.answers at hyes
      rw [hnew] at hyes
      rcases hall _ ((List.mem_append.1 hyes).resolve_left hno) with ⟨_, hat⟩ | hun
      · exact ⟨now, Or.inl rfl, hat⟩
      · exact absurd hun (not_unserved_done k)
  | cons y p =>
      obtain ⟨rfl, _⟩ := List.cons.inj hsplit
      obtain ⟨hstopping, _⟩ := stopping_of_take h hlive hqueue now
      rw [after_append] at hyes
      obtain ⟨t, hx, hat⟩ := (hstopping.after p).answered hno hyes
      exact ⟨t, Or.inr hx, hat⟩

/-! ### From the start -/

section Launch

variable {overlap : OverlapPolicy} {timeout : Duration} {tasks : List (String × Timer)}
  {start : Instant} {l : Loop}

theorem tidy_mailbox (l : Loop) : l.mailbox.Tidy := ⟨fun _ => ⟨rfl, rfl, rfl⟩, fun _ => rfl⟩

/-- The table of fires tells whether every fire has ended. -/
theorem unfinished_eq_nil_iff (h : Loop.launch overlap timeout tasks start = .ok l)
    (xs : List Step) :
    (l.mailbox.after xs).loop.unfinished = [] ↔ AllEnded (l.mailbox.history xs) := by
  rw [allEnded_iff, loop_after, history_eq]
  exact Eq.congr_left (ledger_of_launch h (l.mailbox.seen xs)).table

/-- The time for the fires is the one that was asked for. -/
theorem shutdownTimeout_of_launch (h : Loop.launch overlap timeout tasks start = .ok l)
    (xs : List Step) : (l.mailbox.after xs).loop.shutdownTimeout = timeout := by
  obtain ⟨rs, _, rfl⟩ := Loop.start_ok h
  rw [loop_after, Loop.shutdownTimeout_after]
  change (Loop.registerAll _ tasks).shutdownTimeout = timeout
  rw [Loop.registerAll_eq]

end Launch

end Mailbox

open Mailbox in
/-- **Shutdown is final.**  Let the live loop of a scheduler take a shutdown from its queue, after
any run, and let anything happen afterwards.  Then:

* the scheduler has stopped, now and for good, and only ends of fires are told any more;
* what came into the queue before the shutdown has its answer from the live loop, in order, and the
  shutdown has none yet;
* any other answer is that of the shutdown, or tells that there is no loop;
* when the loop has ended, every command that was ever sent has exactly one answer, and those that
  were behind the shutdown, waited for room or were sent later are told that there is no loop;
* the shutdown is answered when every fire has ended, or when the time for that is up;
* a look at which one of the two is the case ends the loop. -/
theorem shutdown_is_final {overlap : OverlapPolicy} {timeout : Duration}
    {tasks : List (String × Timer)} {start : Instant} {l : Loop}
    (h : Loop.launch overlap timeout tasks start = .ok l) (before : List Step) {k : Nat}
    {behind : List Letter} (hlive : (l.mailbox.after before).loop.phase = .live)
    (hqueue : (l.mailbox.after before).queue = ⟨k, .shutdown⟩ :: behind) (now : Duration)
    (later : List Step) :
    let m := l.mailbox.after before
    let rest := Step.take now :: later
    let m' := m.after rest
    m'.loop.state = .stopped ∧
    (∀ e ∈ m.history rest, ∃ id, e.end? = some id) ∧
    (∃ ahead, l.mailbox.entries before = ahead ++ ⟨k, .shutdown⟩ :: behind ∧
      List.Forall₂ (Served l (l.mailbox.seen before)) ahead m.answers ∧
      ∀ a ∈ m.answers, a.1 ≠ k ∧ ¬ Unserved a) ∧
    (∃ new, m'.answers = m.answers ++ new ∧ ∀ a ∈ new, a = (k, .done) ∨ Unserved a) ∧
    (m'.loop.phase = .ended → (m'.answers.map Prod.fst).Perm (List.range m'.asked) ∧
      ∀ x ∈ behind ++ m.waiting ++ m.sent rest, m'.Told x) ∧
    (∀ p x q, rest = p ++ x :: q → (k, .done) ∉ (m.after p).answers →
      (k, .done) ∈ (m.after (p ++ [x])).answers → ∃ t, (x = .take t ∨ x = .look t) ∧
        (AllEnded (l.mailbox.history (before ++ p)) ∨ now.nanos + timeout.nanos ≤ t.nanos)) ∧
    (∀ t, AllEnded (l.mailbox.history (before ++ rest)) ∨ now.nanos + timeout.nanos ≤ t.nanos →
      (m'.step (.look t)).1.loop.phase = .ended) := by
  intro m rest m'
  have htidy : m.Tidy := (tidy_mailbox l).after before
  have htimeout (xs : List Step) := shutdownTimeout_of_launch h xs
  obtain ⟨hstopping, hquiet⟩ := stopping_of_take htidy hlive hqueue now
  obtain ⟨new, hnew, hall⟩ := answers_take htidy hlive hqueue now
  have hafter : Stopping k now m' := hstopping.after later
  -- what the table says of a moment, the events say too
  have hover (p : List Step) (t : Duration) : ((m.after p).loop.unfinished = [] ∨
      now.nanos + (m.after p).loop.shutdownTimeout.nanos ≤ t.nanos) ↔
        (AllEnded (l.mailbox.history (before ++ p)) ∨ now.nanos + timeout.nanos ≤ t.nanos) := by
    rw [← after_append, unfinished_eq_nil_iff h, htimeout]
  refine ⟨hafter.state, fun e he => ?_, ?_, ?_, fun hended => ?_, fun p x q hsplit hno hyes => ?_,
    fun t ht => hafter.ended_of_look ((hover rest t).2 ht)⟩
  · rw [history_cons, hquiet, List.nil_append] at he
    exact hstopping.end?_of_history later e he
  · obtain ⟨ahead, hentries, hserved⟩ := served_of_live l before hlive
    refine ⟨ahead, by rw [hentries, hqueue], hserved, fun a ha => ⟨?_, ?_⟩⟩
    · have hnodup := (numbers_after (tidy_mailbox l) (.refl _) before).nodup_iff.2 List.nodup_range
      have hmem : ⟨k, .shutdown⟩ ∈ m.underWay := List.mem_append_left _ (by simp [m, hqueue])
      exact ne_number_of_nodup hnodup ha hmem
    · obtain ⟨x, _, hx⟩ := exists_of_forall₂_of_mem hserved ha
      rw [loop_after] at hlive
      exact hx.not_unserved hlive
  · obtain ⟨more, hmore, hrest⟩ := hstopping.answers_after later
    refine ⟨new ++ more, ?_, fun a ha => ?_⟩
    · change ((m.step (.take now)).1.after later).answers = _
      rw [hmore, hnew, List.append_assoc]
    · rcases List.mem_append.1 ha with ha | ha
      · exact (hall a ha).imp_left And.left
      · exact hrest a ha
  · have hnumbers := numbers_after (tidy_mailbox l) (.refl _) (before ++ rest)
    rw [after_append] at hnumbers
    refine ⟨?_, fun x hx => told_of_take htidy hlive hqueue hended hx⟩
    rwa [← hafter.tidy.numbers_of_ended hended]
  · obtain ⟨t, hx, hat⟩ := answered_of_take htidy hlive hqueue hsplit hno hyes
    exact ⟨t, hx, (hover p t).1 hat⟩

open Mailbox in
/-- A shutdown with commands before and behind it, which waits for the end of a fire. -/
theorem shutdown_is_final_of_running_fire :
    let l := Loop.auditing .skip (.ofSeconds 30)
    let before : List Step := [.ask (.trigger "audit"), .ask .pause, .ask .shutdown, .ask .tasks,
      .enter 0, .enter 0, .enter 0, .take ⟨0⟩, .enter 0, .take ⟨0⟩]
    let later : List Step := [.ask .shutdown, .look ⟨5⟩, .finish ⟨1⟩ (.failed "no ring"), .look ⟨7⟩,
      .ask (.trigger "audit")]
    let m := l.mailbox.after before
    let m' := m.after (.take ⟨3⟩ :: later)
    Loop.launch .skip (.ofSeconds 30) [("audit", Loop.secondly)] .epoch = .ok l ∧
      m.loop.phase = .live ∧ m.queue = [⟨2, .shutdown⟩, ⟨3, .tasks⟩] ∧
      m.answers = [(0, .fired ⟨1⟩), (1, .done)] ∧ m'.loop.phase = .ended ∧
      m'.loop.state = .stopped ∧ (∀ e ∈ m.history (.take ⟨3⟩ :: later), ∃ id, e.end? = some id) ∧
      (m'.answers.map Prod.fst).Perm (List.range 6) ∧ m'.Told ⟨3, .tasks⟩ := by
  intro l before later m m'
  have h : Loop.launch .skip (.ofSeconds 30) [("audit", Loop.secondly)] .epoch = .ok l :=
    Loop.launch_auditing .skip (.ofSeconds 30)
  have hlive : (l.mailbox.after before).loop.phase = .live := by decide +kernel
  have hqueue : (l.mailbox.after before).queue = [⟨2, .shutdown⟩, ⟨3, .tasks⟩] := by
    decide +kernel
  have hanswers : m.answers = [(0, .fired ⟨1⟩), (1, .done)] := by decide +kernel
  have hended : m'.loop.phase = .ended := by decide +kernel
  have hasked : m'.asked = 6 := by decide +kernel
  obtain ⟨hstate, hends, -, -, hall, -, -⟩ :=
    shutdown_is_final h before hlive hqueue ⟨3⟩ later
  -- the runs are not to be carried out once more
  have hm : l.mailbox.after before = m := rfl
  have hm' : m.after (.take ⟨3⟩ :: later) = m' := rfl
  clear_value m m'
  rw [hm, hm'] at hstate hall
  rw [hm] at hlive hqueue hends
  obtain ⟨hnumbers, htold⟩ := hall hended
  rw [hasked] at hnumbers
  exact ⟨h, hlive, hqueue, hanswers, hended, hstate, hends, hnumbers, htold ⟨3, .tasks⟩ (by simp)⟩

end NodeSidecar
