/-
**The registered tasks of the loop.**

Registration refuses a name that is taken, so the names of the tasks are distinct, and each task
keeps the timer that it was first registered with.  No move changes the names or the timers: a tick
moves the instants of the tasks that are due, and nothing else does.

Main definitions:

* `Loop.registerAll`, `Loop.launch` — a scheduler with tasks, and started at an instant;
* `Loop.roster` — the tasks with their timers;
* `Registration.due`, `Registration.Advanced` — a task that is due, and its move past the clock;
* `advanceAll` — the registrations after ticks one after another.

Main results:

* `Loop.launched`, `Launched.mem_taskNames` — which tasks are registered;
* `advanceDue_ok`, `mem_due_iff` — what a tick does to the registrations, task by task, and which
  tasks it reports;
* `Loop.advanceAll_after` — the timers are moved by the ticks alone;
* `Loop.roster_after`, `Loop.taskNames_after` — no run changes the tasks or their timers.
-/

import Mathlib.Data.List.Forall2
import Mathlib.Data.List.Nodup
import NodeSidecar.Proofs.Scheduler.Run

set_option autoImplicit false

namespace NodeSidecar

theorem exists_of_forall₂_of_mem {α β : Type} {R : α → β → Prop} {xs : List α} {ys : List β}
    (h : List.Forall₂ R xs ys) {y : β} (hy : y ∈ ys) : ∃ x ∈ xs, R x y := by
  induction h with
  | nil => simp at hy
  | cons hr _ ih =>
      rcases List.mem_cons.1 hy with rfl | hy
      · exact ⟨_, List.mem_cons_self, hr⟩
      · obtain ⟨x, hx, hxy⟩ := ih hy
        exact ⟨x, List.mem_cons_of_mem _ hx, hxy⟩

/-! ### Registration -/

theorem perm_insertRegistration (r : Registration) (rs : List Registration) :
    (insertRegistration r rs).Perm (r :: rs) := by
  induction rs with
  | nil => exact List.Perm.refl _
  | cons s rs ih =>
      unfold insertRegistration
      split
      · exact List.Perm.refl _
      · exact (ih.cons s).trans (List.Perm.swap r s rs)

namespace Loop

/-- The tasks with their timers, in the order of their names. -/
def roster (l : Loop) : List (String × Timer) := l.registrations.map fun r => (r.name, r.timer)

/-- Registrations that differ in their instants only make the same roster. -/
theorem roster_eq_of_forall₂ {l l' : Loop}
    (h : List.Forall₂ (fun r r' : Registration => r'.name = r.name ∧ r'.timer = r.timer)
      l.registrations l'.registrations) : l'.roster = l.roster := by
  unfold roster
  generalize l.registrations = rs, l'.registrations = rs' at h
  induction h with
  | nil => rfl
  | cons hr _ ih => rw [List.map_cons, List.map_cons, ih, hr.1, hr.2]

theorem taskNames_eq_roster (l : Loop) : l.taskNames = l.roster.map Prod.fst := by
  simp [taskNames, roster]

/-- The loop after it was asked to register tasks, one after another; a name that is taken is
refused. -/
def registerAll (l : Loop) : List (String × Timer) → Loop
  | [] => l
  | (name, timer) :: tasks =>
    match l.register name timer with
    | .ok l => l.registerAll tasks
    | .error _ => l.registerAll tasks

/-- A scheduler that was asked to register tasks and then started at an instant. -/
def launch (overlap : OverlapPolicy) (timeout : Duration) (tasks : List (String × Timer))
    (start : Instant) : Except Cron.Breakdown Loop :=
  (({ overlap, shutdownTimeout := timeout } : Loop).registerAll tasks).start start

/-- A registration is refused when the name is taken; otherwise the task is added. -/
theorem register_cases (l : Loop) (name : String) (timer : Timer) :
    (name ∈ l.taskNames ∧ l.register name timer = .error (.duplicateTask name)) ∨
    (name ∉ l.taskNames ∧ ∃ l', l.register name timer = .ok l' ∧
      l'.roster.Perm ((name, timer) :: l.roster) ∧
      l' = { l with registrations := l'.registrations }) := by
  by_cases h : name ∈ l.taskNames
  · refine Or.inl ⟨h, ?_⟩
    rw [register, if_pos (registration?_isSome.2 h)]
  · refine Or.inr ⟨h, { l with
      registrations := insertRegistration ⟨name, timer, none⟩ l.registrations }, ?_, ?_, rfl⟩
    · rw [register, if_neg (mt registration?_isSome.1 h)]
    · exact (perm_insertRegistration _ _).map _

theorem nodup_taskNames_registerAll {l : Loop} (h : l.taskNames.Nodup)
    (tasks : List (String × Timer)) : (l.registerAll tasks).taskNames.Nodup := by
  induction tasks generalizing l with
  | nil => exact h
  | cons t tasks ih =>
      obtain ⟨name, timer⟩ := t
      rcases register_cases l name timer with ⟨_, hr⟩ | ⟨hn, l', hr, hp, _⟩
      · simp only [registerAll, hr]; exact ih h
      · simp only [registerAll, hr]
        refine ih ?_
        rw [taskNames_eq_roster, (hp.map Prod.fst).nodup_iff]
        rw [taskNames_eq_roster] at hn h
        exact List.nodup_cons.2 ⟨hn, h⟩

/-- The first registration of a name counts. -/
theorem mem_roster_registerAll {l : Loop} {tasks : List (String × Timer)} {name : String}
    {timer : Timer} :
    (name, timer) ∈ (l.registerAll tasks).roster ↔
      (name, timer) ∈ l.roster ∨ (name ∉ l.taskNames ∧ tasks.lookup name = some timer) := by
  induction tasks generalizing l with
  | nil => simp [registerAll]
  | cons t tasks ih =>
      obtain ⟨first, firstTimer⟩ := t
      rcases register_cases l first firstTimer with ⟨hn, hr⟩ | ⟨hn, l', hr, hp, _⟩
      · simp only [registerAll, hr, ih]
        by_cases he : name = first
        · subst he; simp [hn]
        · have : (name == first) = false := by simpa using he
          simp [List.lookup_cons, this]
      · have hnames : name ∈ l'.taskNames ↔ name = first ∨ name ∈ l.taskNames := by
          rw [taskNames_eq_roster, taskNames_eq_roster, (hp.map Prod.fst).mem_iff]
          simp
        simp only [registerAll, hr, ih, hp.mem_iff, hnames, List.mem_cons, Prod.mk.injEq]
        by_cases he : name = first
        · subst he
          have hmem : (name, timer) ∉ l.roster := fun h =>
            hn (by rw [taskNames_eq_roster]; exact List.mem_map_of_mem h)
          simp [hmem, hn, eq_comm]
        · have : (name == first) = false := by simpa using he
          simp [List.lookup_cons, this, he]

/-- Registering tasks changes nothing but the registrations. -/
theorem registerAll_eq (l : Loop) (tasks : List (String × Timer)) :
    l.registerAll tasks = { l with registrations := (l.registerAll tasks).registrations } := by
  induction tasks generalizing l with
  | nil => rfl
  | cons t tasks ih =>
      rcases register_cases l t.1 t.2 with ⟨_, hr⟩ | ⟨_, l', hr, _, he⟩
      · simp only [registerAll, hr]; exact ih l
      · simp only [registerAll, hr]
        rw [ih l', he]

/-! ### Starting -/

/-- The answers of a function over a list, when it gives one for every element. -/
theorem forall₂_of_mapM_ok {ε α β : Type} {f : α → Except ε β} {xs : List α} {ys : List β}
    (h : xs.mapM f = .ok ys) : List.Forall₂ (fun x y => f x = .ok y) xs ys := by
  induction xs generalizing ys with
  | nil =>
      obtain rfl : ys = [] := (Except.ok.inj h).symm
      exact .nil
  | cons x xs ih =>
      rw [List.mapM_cons] at h
      cases hx : f x with
      | error e => simp [hx, bind, Except.bind] at h
      | ok y =>
          cases hxs : xs.mapM f with
          | error e => simp [hx, hxs, bind, Except.bind] at h
          | ok zs =>
              simp only [hx, hxs, bind, Except.bind, pure, Except.pure] at h
              obtain rfl : y :: zs = ys := Except.ok.inj h
              exact .cons hx (ih hxs)

/-- A registration before and after the start: its timer has been asked for its first instant. -/
def Started (now : Instant) (r r' : Registration) : Prop :=
  r'.name = r.name ∧ r'.timer = r.timer ∧ r.timer.firstFire now = .ok r'.nextFire

theorem start_ok {l l' : Loop} {now : Instant} (h : l.start now = .ok l') :
    ∃ rs, List.Forall₂ (Started now) l.registrations rs ∧
      l' = { l with registrations := rs } := by
  simp only [start, bind, Except.bind, pure, Except.pure] at h
  split at h
  · cases h
  · next rs hrs =>
    refine ⟨rs, (forall₂_of_mapM_ok hrs).imp fun r r' hr => ?_, (Except.ok.inj h).symm⟩
    split at hr
    · cases hr
    · next next hnext =>
      obtain rfl := Except.ok.inj hr
      exact ⟨rfl, rfl, hnext⟩

/-- What is known of a scheduler that has just been started. -/
structure Launched (overlap : OverlapPolicy) (tasks : List (String × Timer)) (start : Instant)
    (l : Loop) : Prop where
  overlap : l.overlap = overlap
  fires : l.fires = []
  state : l.state = .running
  phase : l.phase = .live
  nodup_taskNames : l.taskNames.Nodup
  mem_roster : ∀ name timer, (name, timer) ∈ l.roster ↔ tasks.lookup name = some timer
  firstFire : ∀ r ∈ l.registrations, r.timer.firstFire start = .ok r.nextFire

theorem launched {overlap : OverlapPolicy} {timeout : Duration} {tasks : List (String × Timer)}
    {start : Instant} {l : Loop} (h : launch overlap timeout tasks start = .ok l) :
    Launched overlap tasks start l := by
  obtain ⟨rs, hrs, rfl⟩ := start_ok h
  have hroster : ({ (registerAll { overlap, shutdownTimeout := timeout } tasks) with
      registrations := rs } : Loop).roster =
        (registerAll { overlap, shutdownTimeout := timeout } tasks).roster :=
    roster_eq_of_forall₂ (hrs.imp fun _ _ h => ⟨h.1, h.2.1⟩)
  have hall := registerAll_eq { overlap, shutdownTimeout := timeout } tasks
  refine ⟨by rw [hall], by rw [hall], by rw [hall], by rw [hall], ?_, ?_, ?_⟩
  · rw [taskNames_eq_roster, hroster, ← taskNames_eq_roster]
    exact nodup_taskNames_registerAll (by simp [taskNames]) tasks
  · intro name timer
    rw [hroster, mem_roster_registerAll]
    simp [roster, taskNames]
  · intro r hr
    obtain ⟨o, _, ho⟩ := exists_of_forall₂_of_mem hrs hr
    rw [ho.2.1, ho.2.2]

theorem Launched.mem_taskNames {overlap : OverlapPolicy} {tasks : List (String × Timer)}
    {start : Instant} {l : Loop} (h : Launched overlap tasks start l) {name : String} :
    name ∈ l.taskNames ↔ name ∈ tasks.map Prod.fst := by
  rw [taskNames_eq_roster, List.mem_map]
  have hsome : (tasks.lookup name).isSome ↔ name ∈ tasks.map Prod.fst := by
    simp only [List.lookup_isSome_iff, List.mem_map, beq_iff_eq, @eq_comm _ name]
  rw [← hsome, Option.isSome_iff_exists]
  constructor
  · rintro ⟨⟨name, timer⟩, hm, rfl⟩
    exact ⟨timer, (h.mem_roster _ _).1 hm⟩
  · rintro ⟨timer, ht⟩
    exact ⟨(name, timer), (h.mem_roster _ _).2 ht, rfl⟩

/-! ### A scheduler of one task -/

/-- A timer that fires every second. -/
def secondly : Timer := .interval ⟨.ofSeconds 1, by decide, by decide⟩

/-- A scheduler of one task with that timer, started with the epoch. -/
def auditing (overlap : OverlapPolicy) (timeout : Duration) : Loop :=
  { registrations := [⟨"audit", secondly, some .epoch⟩], overlap, shutdownTimeout := timeout }

theorem launch_auditing (overlap : OverlapPolicy) (timeout : Duration) :
    launch overlap timeout [("audit", secondly)] .epoch = .ok (auditing overlap timeout) := rfl

end Loop

/-! ### Moving the timers -/

/-- A task is due when its instant is not after the reading of the clock. -/
def Registration.due (now : Instant) (r : Registration) : Bool :=
  match r.nextFire with
  | some scheduled => decide (scheduled ≤ now)
  | none => false

theorem Registration.due_iff {now : Instant} {r : Registration} :
    r.due now = true ↔ ∃ scheduled, r.nextFire = some scheduled ∧ scheduled ≤ now := by
  unfold Registration.due
  cases r.nextFire with
  | none => simp
  | some scheduled => simp

/-- **What a tick does to one registration**: nothing if it is not due; otherwise its instant
becomes the first one along the timer that lies after the clock. -/
inductive Registration.Advanced (now : Instant) : Registration → Registration → Prop
  | idle {r : Registration} : r.due now = false → Advanced now r r
  | moved {r : Registration} {scheduled : Instant} {first next : Option Instant} {missed : Nat} :
      r.nextFire = some scheduled → scheduled ≤ now → r.timer.nextAfter scheduled = .ok first →
      catchUp r.timer now first 0 = .ok (next, missed) →
      Advanced now r { r with nextFire := next }

theorem Registration.Advanced.name_timer {now : Instant} {r r' : Registration}
    (h : Advanced now r r') : r'.name = r.name ∧ r'.timer = r.timer := by
  cases h with
  | idle => exact ⟨rfl, rfl⟩
  | moved => exact ⟨rfl, rfl⟩

/-- A task that is not due is passed over. -/
theorem advanceDue_cons_of_not_due {now : Instant} {r : Registration} {rs : List Registration}
    (h : r.due now = false) :
    advanceDue now (r :: rs) = (advanceDue now rs).map fun p => (p.1, r :: p.2) := by
  simp only [advanceDue, bind, Except.bind, pure, Except.pure]
  unfold Registration.due at h
  cases hn : r.nextFire with
  | none => cases advanceDue now rs <;> rfl
  | some scheduled =>
      have hle : ¬ scheduled ≤ now := by simpa [hn] using h
      simp only [if_neg hle]
      cases advanceDue now rs <;> rfl

/-- A tick reports the due tasks in the order of the registrations and advances each registration
on its own. -/
theorem advanceDue_ok {now : Instant} {rs : List Registration} {due : List String}
    {rs' : List Registration} (h : advanceDue now rs = .ok (due, rs')) :
    due = (rs.filter (Registration.due now)).map Registration.name ∧
      List.Forall₂ (Registration.Advanced now) rs rs' := by
  induction rs generalizing due rs' with
  | nil =>
      obtain ⟨rfl, rfl⟩ : [] = due ∧ [] = rs' := by simpa [advanceDue] using h
      exact ⟨rfl, .nil⟩
  | cons r rs ih =>
      by_cases hd : r.due now = true
      · obtain ⟨scheduled, hs, hle⟩ := Registration.due_iff.1 hd
        simp only [advanceDue, bind, Except.bind, pure, Except.pure, hs, if_pos hle] at h
        cases hf : r.timer.nextAfter scheduled with
        | error b => simp [hf] at h
        | ok first =>
            cases hc : catchUp r.timer now first 0 with
            | error b => simp [hf, hc] at h
            | ok p =>
                cases ha : advanceDue now rs with
                | error b => simp [hf, hc, ha] at h
                | ok q =>
                    obtain ⟨next, missed⟩ := p
                    obtain ⟨names, rest⟩ := q
                    simp only [hf, hc, ha, Except.ok.injEq, Prod.mk.injEq] at h
                    obtain ⟨rfl, rfl⟩ := h
                    obtain ⟨hnames, hrest⟩ := ih ha
                    refine ⟨?_, .cons (.moved hs hle hf hc) hrest⟩
                    rw [List.filter_cons_of_pos hd, List.map_cons, hnames]
      · rw [advanceDue_cons_of_not_due (by simpa using hd)] at h
        cases ha : advanceDue now rs with
        | error b => simp [ha, Except.map] at h
        | ok q =>
            obtain ⟨names, rest⟩ := q
            simp only [ha, Except.map, Except.ok.injEq, Prod.mk.injEq] at h
            obtain ⟨rfl, rfl⟩ := h
            obtain ⟨hnames, hrest⟩ := ih ha
            refine ⟨?_, .cons (.idle (by simpa using hd)) hrest⟩
            rw [List.filter_cons_of_neg hd, hnames]

/-- A tick reports the tasks of the registrations that are due. -/
theorem mem_due_iff {now : Instant} {rs rs' : List Registration} {due : List String}
    (h : advanceDue now rs = .ok (due, rs')) {task : String} :
    task ∈ due ↔ ∃ r ∈ rs, r.name = task ∧ r.due now = true := by
  rw [(advanceDue_ok h).1, List.mem_map]
  constructor
  · rintro ⟨r, hr, hname⟩
    obtain ⟨hr, hdue⟩ := List.mem_filter.1 hr
    exact ⟨r, hr, hname, hdue⟩
  · rintro ⟨r, hr, hname, hdue⟩
    exact ⟨r, List.mem_filter.2 ⟨hr, hdue⟩, hname⟩

/-- The due tasks are among the registered ones, each once. -/
theorem sublist_of_advanceDue {now : Instant} {rs rs' : List Registration} {due : List String}
    (h : advanceDue now rs = .ok (due, rs')) : due.Sublist (rs.map Registration.name) := by
  rw [(advanceDue_ok h).1]
  exact (List.filter_sublist).map _

namespace Loop

/-- A tick that moves the timers keeps the registrations otherwise. -/
theorem registrations_ticked {l : Loop} {due : List String} {rs : List Registration} :
    ({ l with registrations := rs }.dispatchDue due).1.cleanUp.registrations = rs :=
  (sameSetup_dispatchDue _ _).registrations

@[simp] theorem roster_move (l : Loop) (m : Move) : (l.move m).1.roster = l.roster := by
  have hm := moved l m
  generalize (l.move m).1 = l', Effect.events (l.move m).2 = es at hm
  cases hm with
  | ticked _ ha =>
      refine roster_eq_of_forall₂ ?_
      rw [registrations_ticked]
      exact (advanceDue_ok ha).2.imp fun _ _ h => h.name_timer
  | triggered => simp only [roster, (sameSetup_dispatch l _ _).registrations]
  | ended => simp only [roster, (sameSetup_finish l _ _).registrations]
  | quiet hq => simp only [roster, hq.registrations]

/-- **No run changes the tasks or their timers.** -/
@[simp] theorem roster_after (l : Loop) (ms : List Move) : (l.after ms).roster = l.roster := by
  induction ms generalizing l with
  | nil => rfl
  | cons m ms ih => rw [after_cons, ih, roster_move]

@[simp] theorem taskNames_after (l : Loop) (ms : List Move) :
    (l.after ms).taskNames = l.taskNames := by
  rw [taskNames_eq_roster, roster_after, ← taskNames_eq_roster]

end Loop

/-- The registrations after ticks at the given readings, one after another. -/
def advanceAll : List Instant → List Registration → Except Cron.Breakdown (List Registration)
  | [], rs => .ok rs
  | now :: clock, rs => (advanceDue now rs).bind fun p => advanceAll clock p.2

theorem advanceAll_append {clock clock' : List Instant} {rs rs' : List Registration}
    (h : advanceAll clock rs = .ok rs') :
    advanceAll (clock ++ clock') rs = advanceAll clock' rs' := by
  induction clock generalizing rs with
  | nil =>
      obtain rfl : rs = rs' := Except.ok.inj h
      rfl
  | cons now clock ih =>
      cases ha : advanceDue now rs with
      | error b => simp [advanceAll, ha, Except.bind] at h
      | ok p =>
          simp only [advanceAll, ha, Except.bind] at h
          rw [List.cons_append]
          simp only [advanceAll, ha, Except.bind]
          exact ih h

namespace Loop

theorem advanceAll_move {l : Loop} {m : Move} (hlive : (l.move m).1.phase = .live) :
    advanceAll m.clock?.toList l.registrations = .ok (l.move m).1.registrations := by
  have hm := moved l m
  generalize (l.move m).1 = l', Effect.events (l.move m).2 = es at hm hlive
  cases hm with
  | ticked _ ha =>
      rw [registrations_ticked]
      simp only [Move.clock?, Option.toList, advanceAll, ha, Except.bind]
  | triggered => rw [(sameSetup_dispatch l _ _).registrations]; rfl
  | ended => rw [(sameSetup_finish l _ _).registrations]; rfl
  | quiet hq hc => rw [hc hlive, hq.registrations]; rfl

/-- **The timers are moved by the ticks alone**: while the loop goes on, a run leaves the
registrations where its ticks take them, whatever else happens in it. -/
theorem advanceAll_after {l : Loop} {ms : List Move} (hlive : (l.after ms).phase = .live) :
    advanceAll (ticks ms) l.registrations = .ok (l.after ms).registrations := by
  induction ms generalizing l with
  | nil => rfl
  | cons m ms ih =>
      rw [ticks_cons, advanceAll_append (advanceAll_move (live_of_after hlive))]
      exact ih hlive

end Loop

end NodeSidecar
