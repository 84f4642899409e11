/-
**Health monitors fail closed.**

Monitors ask probes and publish to one place whether the managed process runs.  Anything may happen
in between: other monitors publish, a probe is asked by somebody else and so gives its next answer
away, or the published state is forced.  Still each check stands for itself: it publishes what its
own answer shows, whatever was published before, and a probe that fails shows nothing.

Main definitions:

* `ScriptedProbe.answer` — the answer to the `n`-th question;
* `Watch`, `Watch.Step`, `Watch.step`, `Watch.after` — probes with the published state, and what
  happens to them;
* `Watch.transitions` — the reports of changes in a run;
* `Watch.FailsClosed` — what every step does after a run.

Main results:

* `Watch.probes_after` — what a run leaves of the scripts;
* `HealthMonitor.infos_check` — a check reports a change of the state and nothing else as normal;
* `Watch.transitions_alternate` — **unless the state is forced, the reports of changes alternate**;
* `monitors_fail_closed` — all of this, for every run.
-/

import Mathlib.Logic.Function.Basic
import NodeSidecar.Health.Monitor

set_option autoImplicit false

namespace NodeSidecar

/-! ### Scripts -/

namespace ScriptedProbe

/-- The answer of a script to the `n`-th question: the last answer is given again and again, and an
empty script answers with an empty listing. -/
def answer (script : List Listing) (n : Nat) : Listing :=
  (script[min n script.length - 1]?).getD (.ok "")

/-- A probe that was asked a number of times. -/
def Asked (script : List Listing) (n : Nat) (p : ScriptedProbe) : Prop :=
  p.script = script.drop (min n (script.length - 1))

variable {script : List Listing} {n : Nat} {p : ScriptedProbe}

theorem asked_zero (script : List Listing) (patterns : List String) :
    Asked script 0 ⟨script, patterns⟩ := by
  simp [Asked]

/-- The answer is the first of what is left of the script. -/
theorem list_fst (p : ScriptedProbe) (pattern : String) :
    (p.list pattern).1 = (p.script[0]?).getD (.ok "") := by
  obtain ⟨script, patterns⟩ := p
  rcases script with _ | ⟨a, _ | ⟨b, rest⟩⟩ <;> rfl

/-- It goes unless it is the last. -/
theorem script_list (p : ScriptedProbe) (pattern : String) :
    (p.list pattern).2.script = p.script.drop (min 1 (p.script.length - 1)) := by
  obtain ⟨script, patterns⟩ := p
  rcases script with _ | ⟨a, _ | ⟨b, rest⟩⟩
  · rfl
  · rfl
  · have hlength : min 1 ((a :: b :: rest).length - 1) = 1 := by
      simp only [List.length_cons]
      omega
    rw [hlength]
    rfl

/-- **A question** is answered by the script, -/
theorem Asked.list_fst (h : Asked script n p) (pattern : String) :
    (p.list pattern).1 = answer script (n + 1) := by
  rw [ScriptedProbe.list_fst, h, List.getElem?_drop, answer]
  rcases Nat.eq_zero_or_pos script.length with hzero | hpos
  · rw [List.length_eq_zero_iff.1 hzero]
    rfl
  · have hindex : min n (script.length - 1) + 0 = min (n + 1) script.length - 1 := by omega
    rw [hindex]

/-- and moves it on. -/
theorem Asked.list (h : Asked script n p) (pattern : String) :
    Asked script (n + 1) (p.list pattern).2 := by
  have hindex : min n (script.length - 1) +
      min 1 (script.length - min n (script.length - 1) - 1) =
        min (n + 1) (script.length - 1) := by omega
  rw [Asked, script_list, h, List.drop_drop, List.length_drop, hindex]

end ScriptedProbe

/-! ### Checks -/

namespace HealthMonitor

/-- The report of a change. -/
def transition (running : Bool) : LogLine :=
  if running then .info "Managed process is running" else .info "Managed process is not running"

/-- The reports of normal work. -/
def infos (lines : List LogLine) : List LogLine := lines.filter fun l => l.level = .info

/-- **A check shows a process** exactly when its answer is a listing with a character that is not
blank. -/
theorem check_running {listing : Listing} {before : Bool} :
    (check listing before).1 = true ↔ ∃ output, listing = .ok output ∧ Text.Visible output := by
  cases listing with
  | error e => simp [check]
  | ok output => simp [check, showsProcess_iff]

/-- **A check reports a change**, and nothing else as normal. -/
theorem infos_check (listing : Listing) (before : Bool) :
    infos (check listing before).2 =
      if (check listing before).1 = before then [] else [transition (check listing before).1] := by
  cases listing with
  | error e => cases before <;> rfl
  | ok output =>
      rcases Bool.eq_false_or_eq_true (showsProcess output) with hshows | hshows <;>
        cases before <;> simp [check, hshows, infos, transition, LogLine.info]

end HealthMonitor

/-! ### Runs -/

/-- Probes, and the state that monitors publish. -/
structure Watch (ι : Type) where
  probes : ι → ScriptedProbe
  healthy : Bool := false

namespace Watch

variable {ι : Type}

/-- Something that happens to probes and to the published state. -/
inductive Step (ι : Type) where
  /-- A monitor checks, asking a probe. -/
  | check (probe : ι) (monitor : HealthMonitor)
  /-- A monitor is executed as a task, asking a probe. -/
  | execute (probe : ι) (monitor : HealthMonitor)
  /-- A probe is asked by somebody else. -/
  | list (probe : ι) (pattern : String)
  /-- The state is forced to running. -/
  | force

/-- The probe that a step asks. -/
def Step.probe? : Step ι → Option ι
  | check i _ | execute i _ | list i _ => some i
  | force => none

/-- What a step answers. -/
inductive Answer where
  | checked (running : Bool)
  | executed (result : Except String Unit)
  | listed (listing : Listing)
  | forced

/-- What is seen of a step: its answer and its reports. -/
structure Sight where
  answer : Answer
  lines : List LogLine := []

variable [DecidableEq ι]

/-- A probe is asked: its answer, and the probes after it. -/
def ask (w : Watch ι) (i : ι) (pattern : String) : Listing × Watch ι :=
  let (listing, probe) := (w.probes i).list pattern
  (listing, { w with probes := Function.update w.probes i probe })

/-- **A step**, and what is seen of it. -/
def step (w : Watch ι) : Step ι → Sight × Watch ι
  | .check i m =>
    let (listing, w) := w.ask i m.pattern
    let (running, lines) := HealthMonitor.check listing w.healthy
    (⟨.checked running, lines⟩, { w with healthy := running })
  | .execute i m =>
    let (listing, w) := w.ask i m.pattern
    let (result, running, lines) := HealthMonitor.execute listing w.healthy
    (⟨.executed result, lines⟩, { w with healthy := running })
  | .list i pattern =>
    let (listing, w) := w.ask i pattern
    (⟨.listed listing, []⟩, w)
  | .force => (⟨.forced, []⟩, { w with healthy := true })

/-- The watch after a run. -/
def after (w : Watch ι) : List (Step ι) → Watch ι
  | [] => w
  | s :: steps => (w.step s).2.after steps

@[simp] theorem after_nil (w : Watch ι) : w.after [] = w := rfl

@[simp] theorem after_cons (w : Watch ι) (s : Step ι) (steps : List (Step ι)) :
    w.after (s :: steps) = (w.step s).2.after steps := rfl

/-- The reports of normal work in a run. -/
def transitions (w : Watch ι) : List (Step ι) → List LogLine
  | [] => []
  | s :: steps => HealthMonitor.infos (w.step s).1.lines ++ (w.step s).2.transitions steps

/-- The number of questions that a run asks of a probe. -/
def questions (i : ι) (steps : List (Step ι)) : Nat := steps.countP fun s => s.probe? = some i

/-- Probes with their scripts, before all runs. -/
def start (scripts : ι → List Listing) : Watch ι := ⟨fun i => ⟨scripts i, []⟩, false⟩

/-! ### What a run leaves -/

variable {scripts : ι → List Listing} {w : Watch ι}

/-- Every probe was asked as often as some steps ask it. -/
def Asked (scripts : ι → List Listing) (steps : List (Step ι)) (w : Watch ι) : Prop :=
  ∀ i, ScriptedProbe.Asked (scripts i) (questions i steps) (w.probes i)

theorem questions_concat (i : ι) (steps : List (Step ι)) (s : Step ι) :
    questions i (steps ++ [s]) = questions i steps + if s.probe? = some i then 1 else 0 := by
  simp [questions, List.countP_append, List.countP_singleton]

/-- A question moves the script of its probe and leaves the others. -/
theorem Asked.ask {steps : List (Step ι)} (h : Asked scripts steps w) {s : Step ι} {i : ι}
    (hs : s.probe? = some i) (pattern : String) :
    Asked scripts (steps ++ [s]) (w.ask i pattern).2 := by
  intro j
  rw [questions_concat, hs, Watch.ask]
  by_cases hij : i = j
  · subst hij
    simpa using (h i).list pattern
  · have hne : ¬ some i = some j := fun heq => hij (Option.some.inj heq)
    simpa [hne, Function.update_of_ne (Ne.symm hij)] using h j

/-- **A step** asks what it is said to ask. -/
theorem Asked.step {steps : List (Step ι)} (h : Asked scripts steps w) (s : Step ι) :
    Asked scripts (steps ++ [s]) (w.step s).2 := by
  cases s with
  | check i m => exact h.ask (s := .check i m) rfl m.pattern
  | execute i m => exact h.ask (s := .execute i m) rfl m.pattern
  | list i pattern => exact h.ask (s := .list i pattern) rfl pattern
  | force =>
      intro j
      rw [questions_concat]
      exact h j

/-- **What a run leaves of the scripts.** -/
theorem Asked.after {steps : List (Step ι)} (h : Asked scripts steps w) (later : List (Step ι)) :
    Asked scripts (steps ++ later) (w.after later) := by
  induction later generalizing steps w with
  | nil => simpa using h
  | cons s later ih => simpa using ih (h.step s)

theorem asked_after (scripts : ι → List Listing) (steps : List (Step ι)) :
    Asked scripts steps ((start scripts).after steps) := by
  have hstart : Asked scripts [] (start scripts) := fun i => ScriptedProbe.asked_zero _ _
  exact hstart.after steps

/-! ### Reports of changes -/

/-- Reports of changes that alternate, from the first one on. -/
def alternating (first : Bool) : Nat → List LogLine
  | 0 => []
  | k + 1 => HealthMonitor.transition first :: alternating (!first) k

/-- A step that does not force the state reports whether it has changed. -/
theorem infos_step (w : Watch ι) {s : Step ι} (hs : s ≠ .force) :
    HealthMonitor.infos (w.step s).1.lines =
      if (w.step s).2.healthy = w.healthy then []
      else [HealthMonitor.transition (w.step s).2.healthy] := by
  cases s with
  | check i m => exact HealthMonitor.infos_check _ _
  | execute i m => exact HealthMonitor.infos_check _ _
  | list i pattern => exact (if_pos rfl).symm
  | force => exact absurd rfl hs

/-- **Unless the state is forced, the reports of changes alternate.** -/
theorem transitions_alternate (w : Watch ι) {steps : List (Step ι)} (h : .force ∉ steps) :
    ∃ k, w.transitions steps = alternating (!w.healthy) k := by
  induction steps generalizing w with
  | nil => exact ⟨0, rfl⟩
  | cons s steps ih =>
      obtain ⟨k, hk⟩ := ih (w.step s).2 fun hmem => h (List.mem_cons_of_mem _ hmem)
      have hs : s ≠ .force := fun heq => h (heq ▸ List.mem_cons_self)
      rw [transitions, infos_step w hs, hk]
      by_cases hsame : (w.step s).2.healthy = w.healthy
      · exact ⟨k, by rw [if_pos hsame, hsame]; rfl⟩
      · -- the state has two values, so the new one is the other one
        have hother : (w.step s).2.healthy = !w.healthy := Bool.eq_not_of_ne hsame
        exact ⟨k + 1, by rw [if_neg hsame, hother]; rfl⟩

/-- **What every step does** when some steps have led to a watch. -/
structure FailsClosed (scripts : ι → List Listing) (before : List (Step ι)) (w : Watch ι) :
    Prop where
  /-- The next question to a probe has the next answer of its script, the last one repeating. -/
  asked : ∀ i pattern,
    (w.ask i pattern).1 = ScriptedProbe.answer (scripts i) (questions i before + 1)
  /-- A check answers true exactly when its own answer is a listing with a character that is not
  blank; what it answers is published, and reported if it is a change. -/
  check : ∀ i m, ∃ running, (w.step (.check i m)).1.answer = .checked running ∧
    (running = true ↔ ∃ output,
      ScriptedProbe.answer (scripts i) (questions i before + 1) = .ok output ∧
        Text.Visible output) ∧
    (w.step (.check i m)).2.healthy = running ∧
    HealthMonitor.infos (w.step (.check i m)).1.lines =
      if running = w.healthy then [] else [HealthMonitor.transition running]
  /-- An execution never fails, and is a check otherwise. -/
  execute : ∀ i m, (w.step (.execute i m)).1.answer = .executed (.ok ()) ∧
    (w.step (.execute i m)).1.lines = (w.step (.check i m)).1.lines ∧
    (w.step (.execute i m)).2 = (w.step (.check i m)).2
  /-- A question of somebody else has its answer, and publishes and reports nothing. -/
  list : ∀ i pattern, (w.step (.list i pattern)).1.answer =
      .listed (ScriptedProbe.answer (scripts i) (questions i before + 1)) ∧
    (w.step (.list i pattern)).1.lines = [] ∧
    (w.step (.list i pattern)).2.healthy = w.healthy
  /-- The state can be forced to running, which is not reported. -/
  force : (w.step .force).1.lines = [] ∧ (w.step .force).2.healthy = true
  /-- Unless it was, the reports of changes alternate and begin with one of a running process. -/
  alternate : .force ∉ before → ∃ k, (start scripts).transitions before = alternating true k

end Watch

/-- **Monitors fail closed**, after every run of checks, executions, questions of others and forced
states. -/
theorem monitors_fail_closed {ι : Type} [DecidableEq ι] (scripts : ι → List Listing)
    (before : List (Watch.Step ι)) :
    Watch.FailsClosed scripts before ((Watch.start scripts).after before) := by
  have hasked := Watch.asked_after scripts before
  generalize (Watch.start scripts).after before = w at hasked
  have hanswer (i : ι) (pattern : String) : (w.ask i pattern).1 =
      ScriptedProbe.answer (scripts i) (Watch.questions i before + 1) :=
    (hasked i).list_fst pattern
  refine
    { asked := hanswer
      check := fun i m => ?_
      execute := fun i m => ⟨rfl, rfl, rfl⟩
      list := fun i pattern => ⟨congrArg Watch.Answer.listed (hanswer i pattern), rfl, rfl⟩
      force := ⟨rfl, rfl⟩
      alternate := fun h => Watch.transitions_alternate _ h }
  refine ⟨(HealthMonitor.check (w.ask i m.pattern).1 w.healthy).1, rfl, ?_, rfl,
    HealthMonitor.infos_check _ _⟩
  rw [← hanswer i m.pattern]
  exact HealthMonitor.check_running

end NodeSidecar
