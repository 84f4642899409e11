/-
**Commands under way.**

The loop answers the commands of its queue in the order in which they came in.  This module follows
commands from their handles through the queue to their answers, in runs in which anything else may
happen in between: nothing is lost and nothing is answered twice, whatever comes in is answered in
turn by the live loop, and what the loop sees of such a run is a run of its own.

Main definitions:

* `Mailbox.Step`, `Mailbox.step` — something that happens to the commands or to the loop;
* `Mailbox.after`, `Mailbox.history` — the mailbox after a run, and the events of the run;
* `Mailbox.sent`, `Mailbox.entries` — the commands that were sent, and those that came into the
  queue;
* `Mailbox.seen` — what the loop sees of a run;
* `Mailbox.Tidy` — where commands can be, by what the loop is at;
* `Mailbox.Served` — an answer to a command that the loop has taken;
* `Mailbox.InTurn` — the commands that came in have their answers or are in the queue.

Main results:

* `Mailbox.loop_after`, `Mailbox.history_eq` — the loop after a run and the events of the run are
  those of what the loop sees;
* `Mailbox.numbers_after` — **every command has one number, under way or with its answer**;
* `Mailbox.InTurn.step`, `Mailbox.served_of_live` — **a live loop has answered what came in before
  the queue, in order**;
* `Mailbox.lone_command` — a command without others is answered as the loop answers it.
-/

import Mathlib.Data.List.Forall2
import Mathlib.Data.List.Perm.Basic
import NodeSidecar.Proofs.Scheduler.Stopping
import NodeSidecar.Scheduler.Mailbox

set_option autoImplicit false

namespace NodeSidecar

namespace Mailbox

/-! ### Runs -/

/-- Something that happens to the commands or to the loop. -/
inductive Step where
  | ask (c : Command)
  | enter (i : Nat)
  | take (now : Duration)
  | tick (now : Instant)
  | finish (id : FireId) (outcome : Outcome)
  | look (now : Duration)

/-- What comes of a step. -/
def step (m : Mailbox) : Step → Mailbox × List Effect
  | .ask c => (m.ask c, [])
  | .enter i => (m.enter i, [])
  | .take now => m.take now
  | .tick now => m.tick now
  | .finish id outcome => m.finish id outcome
  | .look now => m.look now

/-- The mailbox after a run. -/
def after (m : Mailbox) : List Step → Mailbox
  | [] => m
  | x :: xs => (m.step x).1.after xs

/-- The events of a run. -/
def history (m : Mailbox) : List Step → List Event
  | [] => []
  | x :: xs => Effect.events (m.step x).2 ++ (m.step x).1.history xs

/-- The command that is sent. -/
def sending (m : Mailbox) : Step → List Letter
  | .ask c => [⟨m.asked, c⟩]
  | _ => []

/-- The commands that are sent in a run. -/
def sent (m : Mailbox) : List Step → List Letter
  | [] => []
  | x :: xs => m.sending x ++ (m.step x).1.sent xs

/-- The command that comes into the queue. -/
def entry (m : Mailbox) : Step → List Letter
  | .enter i => if m.queue.length < capacity then m.waiting[i]?.toList else []
  | _ => []

/-- The commands that come into the queue in a run. -/
def entries (m : Mailbox) : List Step → List Letter
  | [] => []
  | x :: xs => m.entry x ++ (m.step x).1.entries xs

/-- The move that the loop sees of a step. -/
def moves (m : Mailbox) : Step → List Move
  | .ask _ | .enter _ => []
  | .take now =>
    match m.loop.phase, m.queue with
    | .live, x :: _ => [.command now x.command]
    | _, _ => []
  | .tick now => [.tick now]
  | .finish id outcome => [.finish id outcome]
  | .look now => [.look now]

/-- **What the loop sees of a run.** -/
def seen (m : Mailbox) : List Step → List Move
  | [] => []
  | x :: xs => m.moves x ++ (m.step x).1.seen xs

variable {m : Mailbox}

theorem after_cons (m : Mailbox) (x : Step) (xs : List Step) :
    m.after (x :: xs) = (m.step x).1.after xs := rfl

theorem history_cons (m : Mailbox) (x : Step) (xs : List Step) :
    m.history (x :: xs) = Effect.events (m.step x).2 ++ (m.step x).1.history xs := rfl

theorem after_append (m : Mailbox) (xs ys : List Step) :
    m.after (xs ++ ys) = (m.after xs).after ys := by
  induction xs generalizing m with
  | nil => rfl
  | cons x xs ih => exact ih (m.step x).1

/-! ### What the loop sees -/

@[simp] theorem loop_settle (m : Mailbox) : m.settle.loop = m.loop := by
  unfold settle
  split
  · rfl
  · rfl

@[simp] theorem loop_answer (m : Mailbox) (x : Letter) (r : Reply) :
    (m.answer x r).loop = m.loop := by
  cases r <;> rfl

/-- A command that comes in leaves all but the queue and those that wait as it is. -/
theorem enter_eq (m : Mailbox) (i : Nat) :
    ∃ waiting queue, m.enter i = { m with waiting, queue } := by
  unfold enter
  split
  · split
    · exact ⟨_, _, rfl⟩
    · exact ⟨_, _, rfl⟩
  · exact ⟨_, _, rfl⟩

/-- **What becomes of a command that is to be taken**: there is none, or the loop is not live, or
the first one is taken. -/
theorem take_cases (m : Mailbox) (now : Duration) :
    ((m.loop.phase ≠ .live ∨ m.queue = []) ∧ m.take now = (m, []) ∧ m.moves (.take now) = []) ∨
    ∃ x queue, m.loop.phase = .live ∧ m.queue = x :: queue ∧
      m.take now = (settle (answer { m with loop := (m.loop.command now x.command).2.1, queue } x
        (m.loop.command now x.command).1), (m.loop.command now x.command).2.2) ∧
      m.moves (.take now) = [.command now x.command] := by
  obtain ⟨l, waiting, queue, closing, answers, asked⟩ := m
  cases hp : l.phase with
  | live =>
      cases queue with
      | nil => exact Or.inl ⟨Or.inr rfl, by simp [take, hp], by simp [moves, hp]⟩
      | cons x queue =>
          exact Or.inr ⟨x, queue, rfl, rfl, by simp [take, hp], by simp [moves, hp]⟩
  | draining start deadline =>
      exact Or.inl ⟨Or.inl (by simp), by simp [take, hp], by simp [moves, hp]⟩
  | ended => exact Or.inl ⟨Or.inl (by simp), by simp [take, hp], by simp [moves, hp]⟩

/-- **The loop sees its own moves of a step** and nothing else. -/
theorem loop_step (m : Mailbox) (x : Step) :
    (m.step x).1.loop = m.loop.after (m.moves x) ∧
      Effect.events (m.step x).2 = m.loop.history (m.moves x) := by
  have hone (mv : Move) : m.loop.after [mv] = (m.loop.move mv).1 ∧
      m.loop.history [mv] = Effect.events (m.loop.move mv).2 :=
    ⟨rfl, List.append_nil _⟩
  cases x with
  | ask c => exact ⟨loop_settle _, rfl⟩
  | enter i =>
      obtain ⟨waiting, queue, h⟩ := m.enter_eq i
      rw [step, h]
      exact ⟨rfl, rfl⟩
  | take now =>
      rcases m.take_cases now with ⟨_, htake, hmoves⟩ | ⟨x, queue, _, _, htake, hmoves⟩
      · rw [step, htake, hmoves]
        exact ⟨rfl, rfl⟩
      · rw [step, htake, hmoves, (hone _).1, (hone _).2, loop_settle, loop_answer]
        exact ⟨rfl, rfl⟩
  | tick now => exact ⟨loop_settle _, (hone (.tick now)).2.symm⟩
  | finish id outcome => exact ⟨loop_settle _, (hone (.finish id outcome)).2.symm⟩
  | look now => exact ⟨loop_settle _, (hone (.look now)).2.symm⟩

/-- The loop after a run. -/
theorem loop_after (m : Mailbox) (xs : List Step) :
    (m.after xs).loop = m.loop.after (m.seen xs) := by
  induction xs generalizing m with
  | nil => rfl
  | cons x xs ih => rw [after_cons, ih, (m.loop_step x).1, seen, Loop.after_append]

/-- The events of a run. -/
theorem history_eq (m : Mailbox) (xs : List Step) : m.history xs = m.loop.history (m.seen xs) := by
  induction xs generalizing m with
  | nil => rfl
  | cons x xs ih =>
      rw [history_cons, ih, (m.loop_step x).1, (m.loop_step x).2, seen, Loop.history_append]

/-- A loop that is live after a step was live before. -/
theorem live_of_step {x : Step} (h : (m.step x).1.loop.phase = .live) : m.loop.phase = .live := by
  rw [(m.loop_step x).1] at h
  exact Loop.live_of_after h

/-- A loop that is live after a run was live before. -/
theorem live_of_after {xs : List Step} (h : (m.after xs).loop.phase = .live) :
    m.loop.phase = .live := by
  rw [loop_after] at h
  exact Loop.live_of_after h

/-! ### Where commands can be -/

/-- **Where commands can be**: none is under way when the loop has ended, and none is carried out
while the loop is live. -/
structure Tidy (m : Mailbox) : Prop where
  ended : m.loop.phase = .ended → m.waiting = [] ∧ m.queue = [] ∧ m.closing = none
  live : m.loop.phase = .live → m.closing = none

theorem tidy_settle (h : m.loop.phase = .live → m.closing = none) : m.settle.Tidy := by
  unfold settle
  split
  · exact ⟨fun _ => ⟨rfl, rfl, rfl⟩, fun _ => rfl⟩
  · next hnot => exact ⟨fun hended => absurd hended hnot, h⟩

/-- A loop that goes on has answered the command that it took. -/
theorem ne_pending_of_live {l : Loop} {now : Duration} {c : Command} (hp : l.phase = .live)
    (h : (l.command now c).2.1.phase = .live) : c ≠ .shutdown ∧ (l.command now c).1 ≠ .pending := by
  have hc : c ≠ .shutdown := by
    rintro rfl
    rw [Loop.command, hp] at h
    exact (l.shutDown_stopped now).2 h
  exact ⟨hc, (Loop.command_of_live hp now hc).2.1⟩

theorem answer_of_ne_pending {r : Reply} (h : r ≠ .pending) (m : Mailbox) (x : Letter) :
    m.answer x r = { m with answers := m.answers ++ [(x.number, r)] } := by
  cases r with
  | pending => exact absurd rfl h
  | fired id => rfl
  | statuses tasks => rfl
  | done => rfl
  | failed error => rfl

theorem Tidy.step (h : m.Tidy) (x : Step) : (m.step x).1.Tidy := by
  have hmove (mv : Move) : ({ m with loop := (m.loop.move mv).1 } : Mailbox).settle.Tidy :=
    tidy_settle fun hlive => h.live (Loop.live_of_move hlive)
  cases x with
  | ask c => exact tidy_settle h.live
  | enter i =>
      refine ⟨fun hended => ?_, fun hlive => ?_⟩
      · have hphase : m.loop.phase = .ended := by
          rw [(m.loop_step (.enter i)).1] at hended
          exact hended
        have hnone : (m.step (.enter i)).1 = m := by
          simp only [Mailbox.step, enter, (h.ended hphase).1, List.getElem?_nil]
        rw [hnone]
        exact h.ended hphase
      · obtain ⟨waiting, queue, henter⟩ := m.enter_eq i
        have hclosing := h.live (live_of_step hlive)
        rwa [Mailbox.step, henter]
  | take now =>
      rcases m.take_cases now with ⟨_, htake, _⟩ | ⟨x, queue, hp, _, htake, _⟩
      · rwa [Mailbox.step, htake]
      · rw [Mailbox.step, htake]
        refine tidy_settle fun hlive => ?_
        -- only a shutdown is left to be carried out, and after it the loop is not live
        rw [loop_answer] at hlive
        rw [answer_of_ne_pending (ne_pending_of_live hp hlive).2]
        exact h.live hp
  | tick now => exact hmove (.tick now)
  | finish id outcome => exact hmove (.finish id outcome)
  | look now => exact hmove (.look now)

theorem Tidy.after (h : m.Tidy) (xs : List Step) : (m.after xs).Tidy := by
  induction xs generalizing m with
  | nil => exact h
  | cons x xs ih => exact ih (h.step x)

/-! ### Every command has one number -/

/-- The commands that have not been taken. -/
def underWay (m : Mailbox) : List Letter := m.queue ++ m.waiting

/-- The numbers of all commands that were sent, with their answers or not. -/
def numbers (m : Mailbox) : List Nat :=
  m.answers.map Prod.fst ++ m.closing.toList.map Letter.number ++ m.underWay.map Letter.number

theorem numbers_settle (m : Mailbox) : m.settle.numbers = m.numbers := by
  unfold settle
  split
  · simp [numbers, underWay, List.map_map, Function.comp_def, Letter.done, Letter.dropped,
      Letter.refused]
  · rfl

theorem asked_settle (m : Mailbox) : m.settle.asked = m.asked := by
  unfold settle
  split
  · rfl
  · rfl

/-- A command that comes into the queue was under way before. -/
theorem underWay_enter (m : Mailbox) (i : Nat) : (m.enter i).underWay.Perm m.underWay := by
  unfold enter
  cases hi : m.waiting[i]? with
  | none => exact .refl _
  | some x =>
      by_cases hroom : m.queue.length < capacity
      · obtain ⟨hlt, rfl⟩ := List.getElem?_eq_some_iff.1 hi
        -- it moves from those that wait to the end of the queue right before them
        simp only [hroom, if_true, underWay, List.append_assoc]
        exact (List.getElem_cons_eraseIdx_perm hlt).append_left m.queue
      · simp only [hroom, if_false]
        exact .refl _

/-- A command that comes into the queue keeps its number. -/
theorem numbers_enter (m : Mailbox) (i : Nat) : (m.enter i).numbers.Perm m.numbers := by
  have hperm := m.underWay_enter i
  obtain ⟨waiting, queue, h⟩ := m.enter_eq i
  rw [h] at hperm ⊢
  exact (hperm.map Letter.number).append_left _

/-- A command that is taken keeps its number. -/
theorem numbers_answer {x : Letter} {queue : List Letter} (hqueue : m.queue = x :: queue)
    (hclosing : m.closing = none) (l : Loop) (r : Reply) :
    (answer { m with loop := l, queue } x r).numbers = m.numbers := by
  by_cases hr : r = .pending
  · rw [hr]
    simp [answer, numbers, underWay, hqueue, hclosing]
  · rw [answer_of_ne_pending hr]
    simp [numbers, underWay, hqueue, hclosing]

/-- **A step loses no command and answers none twice.** -/
theorem numbers_step (h : m.Tidy) (hm : m.numbers.Perm (List.range m.asked)) (x : Step) :
    (m.step x).1.numbers.Perm (List.range (m.step x).1.asked) := by
  have hsettle (m' : Mailbox) (h' : m'.numbers.Perm (List.range m'.asked)) :
      m'.settle.numbers.Perm (List.range m'.settle.asked) := by
    rwa [numbers_settle, asked_settle]
  cases x with
  | ask c =>
      refine hsettle _ ?_
      have hnumbers : ({ m with waiting := m.waiting ++ [⟨m.asked, c⟩], asked := m.asked + 1 } :
          Mailbox).numbers = m.numbers ++ [m.asked] := by simp [numbers, underWay]
      rw [hnumbers, List.range_succ]
      exact hm.append_right _
  | enter i =>
      have hasked : (m.step (.enter i)).1.asked = m.asked := by
        obtain ⟨waiting, queue, henter⟩ := m.enter_eq i
        rw [step, henter]
      rw [hasked]
      exact (m.numbers_enter i).trans hm
  | take now =>
      rcases m.take_cases now with ⟨_, htake, _⟩ | ⟨x, queue, hp, hqueue, htake, _⟩
      · rwa [Mailbox.step, htake]
      · rw [Mailbox.step, htake]
        refine hsettle _ ?_
        rw [numbers_answer hqueue (h.live hp)]
        have hasked (m' : Mailbox) (r : Reply) : (m'.answer x r).asked = m'.asked := by
          cases r <;> rfl
        rw [hasked]
        exact hm
  | tick now => exact hsettle _ hm
  | finish id outcome => exact hsettle _ hm
  | look now => exact hsettle _ hm

/-- **Every command has one number**, under way or with its answer. -/
theorem numbers_after (h : m.Tidy) (hm : m.numbers.Perm (List.range m.asked)) (xs : List Step) :
    (m.after xs).numbers.Perm (List.range (m.after xs).asked) := by
  induction xs generalizing m with
  | nil => exact hm
  | cons x xs ih => exact ih (h.step x) (numbers_step h hm x)

/-- A command that has not been taken has no answer. -/
theorem ne_number_of_nodup (h : m.numbers.Nodup) {a : Nat × Reply} (ha : a ∈ m.answers)
    {x : Letter} (hx : x ∈ m.underWay) : a.1 ≠ x.number := by
  have hanswered := List.mem_append_left (m.closing.toList.map Letter.number)
    (List.mem_map_of_mem (f := Prod.fst) ha)
  exact (List.nodup_append.1 h).2.2 _ hanswered _ (List.mem_map_of_mem hx)

/-- When the loop has ended, every command that was sent has its answer. -/
theorem Tidy.numbers_of_ended (h : m.Tidy) (hended : m.loop.phase = .ended) :
    m.numbers = m.answers.map Prod.fst := by
  obtain ⟨hwaiting, hqueue, hclosing⟩ := h.ended hended
  simp [numbers, underWay, hwaiting, hqueue, hclosing]

/-! ### Answers in turn -/

/-- **An answer to a command that the loop has taken** in a run: it is what the loop answered where
the run has the command. -/
def Served (l : Loop) (ms : List Move) (x : Letter) (a : Nat × Reply) : Prop :=
  a.1 = x.number ∧ ∃ (ns : List Move) (now : Duration),
    ns ++ [.command now x.command] <+: ms ∧ a.2 = ((l.after ns).command now x.command).1

theorem Served.append {l : Loop} {ms : List Move} {x : Letter} {a : Nat × Reply}
    (h : Served l ms x a) (more : List Move) : Served l (ms ++ more) x a := by
  obtain ⟨hnumber, ns, now, hprefix, hreply⟩ := h
  exact ⟨hnumber, ns, now, hprefix.trans (List.prefix_append ms more), hreply⟩

/-- A loop that goes on has never said that it is not there. -/
theorem Served.ne_channelError {l : Loop} {ms : List Move} {x : Letter} {a : Nat × Reply}
    (h : Served l ms x a) (hlive : (l.after ms).phase = .live) (text : String) :
    a.2 ≠ .failed (.channelError text) := by
  obtain ⟨_, ns, now, ⟨more, rfl⟩, hreply⟩ := h
  rw [Loop.after_append] at hlive
  have hafter := Loop.live_of_after hlive
  rw [Loop.after_append] at hafter
  have hp := Loop.live_of_after hafter
  rw [hreply]
  exact (Loop.command_of_live hp now (ne_pending_of_live hp hafter).1).2.2 text

/-- **What has come in was answered in turn**: the first commands have their answers, and the others
are in the queue. -/
structure InTurn (l : Loop) (ms : List Move) (came : List Letter) (m : Mailbox) : Prop where
  loop : m.loop = l.after ms
  ahead : ∃ ahead, came = ahead ++ m.queue ∧ List.Forall₂ (Served l ms) ahead m.answers

theorem InTurn.settle {l : Loop} {ms : List Move} {came : List Letter} (h : InTurn l ms came m)
    (hlive : m.loop.phase = .live) : InTurn l ms came m.settle := by
  rwa [Mailbox.settle, if_neg (by simp [hlive])]

theorem InTurn.step {l : Loop} {ms : List Move} {came : List Letter} (h : InTurn l ms came m)
    {x : Step} (hlive : (m.step x).1.loop.phase = .live) :
    InTurn l (ms ++ m.moves x) (came ++ m.entry x) (m.step x).1 := by
  have hloop : (m.step x).1.loop = l.after (ms ++ m.moves x) := by
    rw [(m.loop_step x).1, h.loop, Loop.after_append]
  obtain ⟨ahead, hcame, hserved⟩ := h.ahead
  have hmore (ns : List Move) : List.Forall₂ (Served l (ms ++ ns)) ahead m.answers :=
    hserved.imp fun _ _ hs => hs.append ns
  -- a step that neither brings a command into the queue nor takes one from it
  have hstill {m' : Mailbox} {ns : List Move} (hm' : m'.settle.loop = l.after ns)
      (hns : List.Forall₂ (Served l ns) ahead m.answers) (hqueue : m'.queue = m.queue)
      (hanswers : m'.answers = m.answers) (hl : m'.settle.loop.phase = .live) :
      InTurn l ns (came ++ []) m'.settle := by
    rw [loop_settle] at hm' hl
    refine InTurn.settle ⟨hm', ahead, ?_, ?_⟩ hl
    · rw [List.append_nil, hqueue]
      exact hcame
    · rwa [hanswers]
  cases x with
  | ask c => exact hstill hloop (hmore _) rfl rfl hlive
  | enter i =>
      refine ⟨hloop, ahead, ?_, ?_⟩
      · rw [Mailbox.step, enter, entry, hcame, List.append_assoc]
        cases hi : m.waiting[i]? with
        | none => simp
        | some y =>
            by_cases hroom : m.queue.length < capacity
            · simp [hroom]
            · simp [hroom]
      · obtain ⟨waiting, queue, henter⟩ := m.enter_eq i
        have hanswers : (m.enter i).answers = m.answers := by rw [henter]
        rw [Mailbox.step, hanswers]
        exact hmore _
  | take now =>
      have hentry : m.entry (.take now) = [] := rfl
      rw [hentry, List.append_nil]
      rcases m.take_cases now with ⟨_, htake, _⟩ | ⟨y, queue, hp, hqueue, htake, hmoves⟩
      · refine ⟨hloop, ahead, ?_, ?_⟩
        · rw [Mailbox.step, htake]
          exact hcame
        · rw [Mailbox.step, htake]
          exact hmore _
      · rw [Mailbox.step, htake] at hlive hloop ⊢
        rw [loop_settle] at hloop hlive
        rw [hmoves] at hloop ⊢
        -- the loop goes on, so it has answered the first command of the queue
        refine InTurn.settle ⟨hloop, ahead ++ [y], ?_, ?_⟩ hlive
        · rw [loop_answer] at hlive
          rw [answer_of_ne_pending (ne_pending_of_live hp hlive).2, hcame, hqueue,
            List.append_assoc]
          rfl
        · rw [loop_answer] at hlive
          rw [answer_of_ne_pending (ne_pending_of_live hp hlive).2]
          refine List.rel_append (hmore _) (.cons ⟨rfl, ms, now, List.prefix_rfl, ?_⟩ .nil)
          rw [← h.loop]
  | tick now => exact hstill hloop (hmore _) rfl rfl hlive
  | finish id outcome => exact hstill hloop (hmore _) rfl rfl hlive
  | look now => exact hstill hloop (hmore _) rfl rfl hlive

theorem InTurn.after {l : Loop} {ms : List Move} {came : List Letter} (h : InTurn l ms came m)
    (xs : List Step) (hlive : (m.after xs).loop.phase = .live) :
    InTurn l (ms ++ m.seen xs) (came ++ m.entries xs) (m.after xs) := by
  induction xs generalizing m ms came with
  | nil => rwa [entries, seen, List.append_nil, List.append_nil]
  | cons x xs ih =>
      have hstep := h.step (live_of_after (m := (m.step x).1) hlive)
      rw [entries, seen, ← List.append_assoc, ← List.append_assoc]
      exact ih hstep hlive

/-- **A live loop has answered what came in before the queue**, in order. -/
theorem served_of_live (l : Loop) (xs : List Step) (h : (l.mailbox.after xs).loop.phase = .live) :
    ∃ ahead, l.mailbox.entries xs = ahead ++ (l.mailbox.after xs).queue ∧
      List.Forall₂ (Served l (l.mailbox.seen xs)) ahead (l.mailbox.after xs).answers := by
  have hfirst : InTurn l [] [] l.mailbox := ⟨rfl, [], rfl, .nil⟩
  exact (hfirst.after xs h).ahead

/-! ### A command without others -/

/-- **A command without others** is answered as the loop answers it, unless it has to wait. -/
theorem lone_command (l : Loop) (c : Command) (now : Duration) :
    let p := ((l.mailbox.ask c).enter 0).take now
    p.1.loop = (l.command now c).2.1 ∧ p.2 = (l.command now c).2.2 ∧
      (l.phase = .ended ∨ l.phase = .live ∧ (l.command now c).1 ≠ .pending →
        p.1.answers = [(0, (l.command now c).1)]) := by
  intro p
  have hroom : 0 < capacity := by decide
  cases hp : l.phase with
  | live =>
      have hin : (l.mailbox.ask c).enter 0 =
          { loop := l, queue := [⟨0, c⟩], asked := 1 } := by
        simp [ask, settle, Loop.mailbox, hp, enter, hroom]
      have htake : p = (settle (answer { loop := (l.command now c).2.1, asked := 1 } ⟨0, c⟩
          (l.command now c).1), (l.command now c).2.2) := by
        simp only [p, hin, take, hp]
      rw [htake]
      refine ⟨by simp, rfl, fun h => ?_⟩
      have hreply : (l.command now c).1 ≠ .pending := by simpa using h
      rw [answer_of_ne_pending hreply, settle]
      split
      · rfl
      · rfl
  | draining start deadline =>
      simp [p, ask, settle, Loop.mailbox, hp, enter, hroom, take, Loop.command]
  | ended => simp [p, ask, settle, Loop.mailbox, hp, enter, take, Loop.command, Letter.refused]

end Mailbox

end NodeSidecar
