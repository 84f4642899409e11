/-
**The search of a schedule finds the first time that it allows.**

The search goes through years, months, days and times of day.  At each level the parts that it goes
through follow one another on the wall clock, so that the first part in which something is found
holds the first time of all.  What is found at a level is described by a set of wall clock times:
those that are allowed in the units below the level, within the part that is searched, and not
before the bound that the search starts from.

The weekday is looked at last, when it is known that the date occurs, so that the search may break
down on a date of a weekday that is not allowed.  Therefore the times that are searched are those of
the schedule with all weekdays, and the weekday decides on what comes of each of them.

Main definitions:

* `LocalTime.ordinal`, `Cron.Schedule.ordinals`, `Cron.Schedule.Allows` — when a schedule allows a
  wall clock time;
* `Cron.Schedule.IsProper` — a schedule whose ordinals ascend and belong to their units;
* `Cron.FirstResult` — the first result among a set of wall clock times;
* `Cron.Schedule.outcome` — what comes of a wall clock time that is met in a search;
* `Cron.Finds` — what a search among a set of wall clock times gives.

Main results:

* `Cron.FirstResult.findSome?` — searching parts that follow one another searches them all;
* `Cron.firstResult_onDay`, `Cron.firstResult_inMonth`, `Cron.firstResult_inYear` — the search at
  each level;
* `Cron.firstResult_search` — **the search gives what comes of the first time that anything comes
  of**;
* `Cron.finds_search` — the search finds the first time of the schedule that belongs to exactly
  one second;
* `Cron.exists_of_search`, `Cron.exists_year_of_search` — what is found is never before the bound,
  whatever the years, and is of one of them.
-/

import NodeSidecar.Cron.Search
import NodeSidecar.Proofs.Time.Calendar
import Mathlib.Data.Set.Insert

set_option autoImplicit false

namespace NodeSidecar

/-- The ordinal that a wall clock time has in a unit. -/
def LocalTime.ordinal (c : LocalTime) : Cron.Unit → Nat
  | .second => c.time.second
  | .minute => c.time.minute
  | .hour => c.time.hour
  | .day => c.date.day
  | .month => c.date.month
  | .weekday => c.date.weekday
  | .year => c.date.year.toNat

namespace Cron

theorem Unit.holds_iff {u : Unit} {n : Nat} : u.holds n = true ↔ u.least ≤ n ∧ n ≤ u.greatest := by
  simp [Unit.holds]

namespace Schedule

/-- The ordinals that a schedule allows in a unit. -/
def ordinals (s : Schedule) : Unit → List Nat
  | .second => s.seconds
  | .minute => s.minutes
  | .hour => s.hours
  | .day => s.days
  | .month => s.months
  | .weekday => s.weekdays
  | .year => s.years

/-- A schedule is proper when its ordinals ascend and belong to their units. -/
def IsProper (s : Schedule) : Prop :=
  ∀ u, (s.ordinals u).Pairwise (· < ·) ∧ ∀ n ∈ s.ordinals u, u.holds n = true

/-- A schedule allows a wall clock time in some of the units. -/
def AllowsIn (s : Schedule) (units : List Unit) (c : LocalTime) : Prop :=
  ∀ u ∈ units, c.ordinal u ∈ s.ordinals u

/-- **A schedule allows a wall clock time** when it allows its ordinal in each unit. -/
def Allows (s : Schedule) (c : LocalTime) : Prop := ∀ u, c.ordinal u ∈ s.ordinals u

end Schedule

/-- The units of a time of day. -/
def timeUnits : List Unit := [.hour, .minute, .second]

/-- The units that decide within a day: its weekday and the time. -/
def dayUnits : List Unit := .weekday :: timeUnits

/-- The units that decide within a month. -/
def monthUnits : List Unit := .day :: dayUnits

/-- The units that decide within a year. -/
def yearUnits : List Unit := .month :: monthUnits

variable {s : Schedule} {z : Zone} {c : LocalTime}

namespace Schedule

@[simp] theorem allowsIn_cons {u : Unit} {us : List Unit} :
    s.AllowsIn (u :: us) c ↔ c.ordinal u ∈ s.ordinals u ∧ s.AllowsIn us c :=
  List.forall_mem_cons

theorem allows_iff : s.Allows c ↔ c.date.year.toNat ∈ s.years ∧ s.AllowsIn yearUnits c := by
  constructor
  · intro h
    exact ⟨h .year, fun u _ => h u⟩
  · rintro ⟨hyear, h⟩ u
    cases u with
    | year => exact hyear
    | _ => exact h _ (by simp [yearUnits, monthUnits, dayUnits, timeUnits])

/-- The times of day that a proper schedule allows are real. -/
theorem IsProper.isReal (hs : s.IsProper) {h m sec : Nat} (hh : h ∈ s.hours) (hm : m ∈ s.minutes)
    (hsec : sec ∈ s.seconds) : TimeOfDay.IsReal ⟨h, m, sec⟩ := by
  have h₁ := (Unit.holds_iff.1 ((hs .hour).2 h hh)).2
  have h₂ := (Unit.holds_iff.1 ((hs .minute).2 m hm)).2
  have h₃ := (Unit.holds_iff.1 ((hs .second).2 sec hsec)).2
  exact ⟨Nat.lt_succ_of_le h₁, Nat.lt_succ_of_le h₂, Nat.lt_succ_of_le h₃⟩

end Schedule

/-! ### Searching -/

/-- **The first result among a set of wall clock times**: that of the earliest time with a result,
and none when no time has one. -/
def FirstResult {β : Type} (S : Set Int) (f : Int → Option β) : Option β → Prop
  | none => ∀ l ∈ S, f l = none
  | some b => ∃ l ∈ S, f l = some b ∧ ∀ k ∈ S, k < l → f k = none

namespace FirstResult

variable {β : Type} {S T : Set Int} {f g : Int → Option β} {r r' : Option β}

theorem congr (h : FirstResult S f r) (hS : ∀ l, l ∈ T ↔ l ∈ S) (hf : ∀ l ∈ S, g l = f l) :
    FirstResult T g r := by
  obtain rfl : T = S := Set.ext hS
  cases r with
  | none => exact fun l hl => (hf l hl).trans (h l hl)
  | some b =>
      obtain ⟨l, hl, hb, hfirst⟩ := h
      exact ⟨l, hl, (hf l hl).trans hb, fun k hk hlt => (hf k hk).trans (hfirst k hk hlt)⟩

/-- A search through other words for the same times. -/
theorem of_iff (h : FirstResult S f r) (hS : ∀ l, l ∈ T ↔ l ∈ S) : FirstResult T f r :=
  h.congr hS fun _ _ => rfl

theorem of_empty (h : ∀ l, l ∉ S) : FirstResult S f none := fun l hl => absurd hl (h l)

/-- A search of one time. -/
theorem single (f : Int → Option β) (l : Int) : FirstResult {l} f (f l) := by
  cases hl : f l with
  | none => exact fun k hk => Set.mem_singleton_iff.1 hk ▸ hl
  | some b =>
      refine ⟨l, Set.mem_singleton l, hl, fun k hk hlt => ?_⟩
      exact absurd (Set.mem_singleton_iff.1 hk) (Int.ne_of_lt hlt)

/-- A search that takes place under a condition only. -/
theorem guarded (p : Prop) [Decidable p] (h : ¬p → FirstResult S f r) :
    FirstResult {l | ¬p ∧ l ∈ S} f (if p then none else r) := by
  by_cases hp : p
  · rw [if_pos hp]
    exact of_empty fun l hl => hl.1 hp
  · rw [if_neg hp]
    exact (h hp).of_iff fun l => and_iff_right hp

/-- A search of one set and, if it gives nothing, of a set behind it. -/
theorem or (hr : FirstResult S f r) (hr' : FirstResult T f r') (hlt : ∀ l ∈ S, ∀ k ∈ T, l < k) :
    FirstResult (S ∪ T) f (r.or r') := by
  match r, r' with
  | none, none => exact fun l hl => hl.elim (hr l) (hr' l)
  | none, some b =>
      obtain ⟨l, hl, hb, hfirst⟩ := hr'
      exact ⟨l, .inr hl, hb, fun k hk hkl => hk.elim (hr k) fun hk => hfirst k hk hkl⟩
  | some b, _ =>
      obtain ⟨l, hl, hb, hfirst⟩ := hr
      refine ⟨l, .inl hl, hb, fun k hk hkl => hk.elim (fun hk => hfirst k hk hkl) fun hk => ?_⟩
      have := hlt l hl k hk
      omega

/-- **Searching parts that follow one another searches them all.** -/
theorem findSome? {α : Type} (xs : List α) {part : α → Set Int} {search : α → Option β}
    (h : ∀ x ∈ xs, FirstResult (part x) f (search x))
    (hlt : xs.Pairwise fun x y => ∀ l ∈ part x, ∀ k ∈ part y, l < k) :
    FirstResult {l | ∃ x ∈ xs, l ∈ part x} f (xs.findSome? search) := by
  induction xs with
  | nil => exact of_empty fun l hl => by simp at hl
  | cons x xs ih =>
      obtain ⟨hhead, htail⟩ := List.pairwise_cons.1 hlt
      have hor : (x :: xs).findSome? search = (search x).or (xs.findSome? search) := by
        rw [List.findSome?_cons]
        cases search x <;> rfl
      rw [hor]
      refine ((h x List.mem_cons_self).or (ih (fun y hy => h y (List.mem_cons_of_mem x hy)) htail)
        ?_).of_iff fun l => ?_
      · rintro l hl k ⟨y, hy, hk⟩
        exact hhead y hy l hl k hk
      · simp

end FirstResult

/-- **What comes of a wall clock time** that is met in a search: the search breaks down when its
date does not occur, and otherwise gives the second of the time, provided that its weekday is
allowed and that it belongs to exactly one second. -/
def Schedule.outcome (s : Schedule) (z : Zone) (l : Int) : Option (Except Breakdown Int) :=
  if !z.hasDay (l / 86400) then some (.error .missingDate)
  else if !s.weekdays.contains (Date.weekdayOfDays (l / 86400)) then none
  else (z.unique? l).map .ok

/-- The schedule with all weekdays allowed. -/
def Schedule.onAnyWeekday (s : Schedule) : Schedule :=
  { s with weekdays := Unit.weekday.ordinals }

theorem Schedule.ordinals_onAnyWeekday (s : Schedule) {u : Unit} (hu : u ≠ .weekday) :
    s.onAnyWeekday.ordinals u = s.ordinals u := by
  cases u with
  | weekday => exact absurd rfl hu
  | _ => rfl

theorem Schedule.IsProper.onAnyWeekday (hs : s.IsProper) : s.onAnyWeekday.IsProper := by
  intro u
  by_cases hu : u = .weekday
  · subst hu
    exact ⟨List.pairwise_lt_range' 1, fun n => Unit.mem_ordinals.1⟩
  · rw [s.ordinals_onAnyWeekday hu]
    exact hs u

theorem Schedule.outcome_cases (s : Schedule) (z : Zone) (l : Int) :
    (z.hasDay (l / 86400) = false ∧ s.outcome z l = some (.error .missingDate)) ∨
    (z.hasDay (l / 86400) = true ∧ Date.weekdayOfDays (l / 86400) ∉ s.weekdays ∧
      s.outcome z l = none) ∨
    (z.hasDay (l / 86400) = true ∧ Date.weekdayOfDays (l / 86400) ∈ s.weekdays ∧
      s.outcome z l = (z.unique? l).map .ok) := by
  cases hday : z.hasDay (l / 86400) with
  | false => simp [outcome, hday]
  | true =>
      by_cases hweekday : Date.weekdayOfDays (l / 86400) ∈ s.weekdays
      · simp [outcome, hday, hweekday]
      · simp [outcome, hday, hweekday]

theorem Schedule.outcome_eq_ok {l u : Int} : s.outcome z l = some (.ok u) ↔
    z.hasDay (l / 86400) = true ∧ Date.weekdayOfDays (l / 86400) ∈ s.weekdays ∧
      z.unique? l = some u := by
  obtain ⟨hday, h⟩ | ⟨hday, hweekday, h⟩ | ⟨hday, hweekday, h⟩ := s.outcome_cases z l
  · simp [h, hday]
  · simp [h, hweekday]
  · simp [h, hday, hweekday]

theorem Schedule.outcome_eq_error {l : Int} {b : Breakdown} :
    s.outcome z l = some (.error b) ↔ z.hasDay (l / 86400) = false ∧ .missingDate = b := by
  obtain ⟨hday, h⟩ | ⟨hday, -, h⟩ | ⟨hday, -, h⟩ := s.outcome_cases z l
  · simp [h, hday]
  · simp [h, hday]
  · simp [h, hday]

theorem Schedule.outcome_eq_none {l : Int} : s.outcome z l = none ↔
    z.hasDay (l / 86400) = true ∧
      (Date.weekdayOfDays (l / 86400) ∈ s.weekdays → z.unique? l = none) := by
  obtain ⟨hday, h⟩ | ⟨hday, hweekday, h⟩ | ⟨hday, hweekday, h⟩ := s.outcome_cases z l
  · simp [h, hday]
  · simp [h, hday, hweekday]
  · simp [h, hday, hweekday]

/-! ### The search within a day -/

/-- A time of day that is not passed over when the search starts from `floor`. -/
def Reached (floor : TimeOfDay) (h m sec : Nat) : Prop :=
  ¬ h < floor.hour ∧ ¬ (h = floor.hour ∧ m < floor.minute) ∧
    ¬ (h = floor.hour ∧ m = floor.minute ∧ sec < floor.second)

theorem reached_iff {floor t : TimeOfDay} (hfloor : floor.IsReal) (ht : t.IsReal) :
    Reached floor t.hour t.minute t.second ↔ floor.toSeconds ≤ t.toSeconds := by
  obtain ⟨-, h₁, h₂⟩ := hfloor
  obtain ⟨-, h₃, h₄⟩ := ht
  simp only [Reached, TimeOfDay.toSeconds]
  omega

/-- The wall clock times of a day, from a time of day on, whose time the schedule allows. -/
def timesFrom (s : Schedule) (day : Int) (floor : TimeOfDay) : Set Int :=
  {l | l / 86400 = day ∧ s.AllowsIn timeUnits (.ofSeconds l) ∧ day * 86400 + floor.toSeconds ≤ l}

theorem mem_timesFrom (hs : s.IsProper) {day : Int} {floor : TimeOfDay} (hfloor : floor.IsReal)
    {l : Int} : l ∈ timesFrom s day floor ↔ ∃ h ∈ s.hours, ∃ m ∈ s.minutes, ∃ sec ∈ s.seconds,
      Reached floor h m sec ∧ l = day * 86400 + TimeOfDay.toSeconds ⟨h, m, sec⟩ := by
  constructor
  · rintro ⟨hday, hallowed, hle⟩
    have hreal := LocalTime.isReal_time l
    have hl := LocalTime.toSeconds_ofSeconds l
    simp only [LocalTime.toSeconds, LocalTime.date_ofSeconds, Date.toDays_ofDays, hday] at hl
    simp only [timeUnits, Schedule.allowsIn_cons] at hallowed
    obtain ⟨hh, hm, hsec, -⟩ := hallowed
    refine ⟨_, hh, _, hm, _, hsec, (reached_iff hfloor hreal).2 ?_, hl.symm⟩
    omega
  · rintro ⟨h, hh, m, hm, sec, hsec, hreached, rfl⟩
    have hreal := hs.isReal hh hm hsec
    have hlt := hreal.toSeconds_lt
    have hday : (day * 86400 + TimeOfDay.toSeconds ⟨h, m, sec⟩) / 86400 = day := by omega
    have htime : (LocalTime.ofSeconds (day * 86400 + TimeOfDay.toSeconds ⟨h, m, sec⟩)).time =
        ⟨h, m, sec⟩ := by
      rw [LocalTime.time_ofSeconds, ← TimeOfDay.ofSeconds_toSeconds hreal]
      congr 1
      simp only [TimeOfDay.toSeconds_ofSeconds]
      omega
    refine ⟨hday, ?_, ?_⟩
    · simp only [timeUnits, Schedule.allowsIn_cons, LocalTime.ordinal, htime]
      exact ⟨hh, hm, hsec, fun u hu => by cases hu⟩
    · have := (reached_iff hfloor hreal).1 hreached
      omega

/-- The loops over the times of day give nothing when no time is reached. -/
theorem timesFrom_empty (hs : s.IsProper) {day : Int} {floor : TimeOfDay} (hfloor : floor.IsReal)
    (h : (s.firstTime? floor some).isNone = true) : ∀ l, l ∉ timesFrom s day floor := by
  intro l hl
  obtain ⟨hour, hh, m, hm, sec, hsec, ⟨h₁, h₂, h₃⟩, -⟩ := (mem_timesFrom hs hfloor).1 hl
  rw [Option.isNone_iff_eq_none, Schedule.firstTime?, List.findSome?_eq_none_iff] at h
  have hnone := h hour hh
  rw [if_neg h₁, List.findSome?_eq_none_iff] at hnone
  have hnone := hnone m hm
  rw [if_neg h₂, List.findSome?_eq_none_iff] at hnone
  have hnone := hnone sec hsec
  rw [if_neg h₃] at hnone
  cases hnone

theorem firstTime?_map {α β : Type} (s : Schedule) (floor : TimeOfDay) (f : TimeOfDay → Option α)
    (g : α → β) : (s.firstTime? floor f).map g = s.firstTime? floor fun t => (f t).map g := by
  simp only [Schedule.firstTime?, List.map_findSome?, Function.comp_def, apply_ite (Option.map g),
    Option.map_none]

/-- The times of day are searched hour by hour, minute by minute and second by second. -/
theorem firstResult_firstTime {β : Type} (hs : s.IsProper) (day : Int) {floor : TimeOfDay}
    (hfloor : floor.IsReal) (f : Int → Option β) : FirstResult (timesFrom s day floor) f
      (s.firstTime? floor fun t => f (day * 86400 + t.toSeconds)) := by
  have hinMinute (h m : Nat) : FirstResult _ f _ := FirstResult.findSome? s.seconds
    (fun sec _ => .guarded (h = floor.hour ∧ m = floor.minute ∧ sec < floor.second) fun _ =>
      .single f (day * 86400 + TimeOfDay.toSeconds ⟨h, m, sec⟩)) <| by
    refine (hs .second).1.imp ?_
    rintro sec sec' hlt l ⟨-, rfl⟩ k ⟨-, rfl⟩
    simp only [TimeOfDay.toSeconds]
    omega
  have hinHour (h : Nat) : FirstResult _ f _ := FirstResult.findSome? s.minutes
    (fun m _ => .guarded (h = floor.hour ∧ m < floor.minute) fun _ => hinMinute h m) <| by
    refine (hs .minute).1.imp ?_
    rintro m m' hlt l ⟨-, sec, hsec, -, rfl⟩ k ⟨-, sec', -, -, rfl⟩
    have := (Unit.holds_iff.1 ((hs .second).2 sec hsec)).2
    simp only [TimeOfDay.toSeconds, Unit.greatest] at *
    omega
  have hinDay : FirstResult _ f _ := FirstResult.findSome? s.hours
    (fun h _ => .guarded (h < floor.hour) fun _ => hinHour h) <| by
    refine (hs .hour).1.imp ?_
    rintro h h' hlt l ⟨-, m, hm, -, sec, hsec, -, rfl⟩ k ⟨-, m', -, -, sec', -, -, rfl⟩
    have h₁ := (Unit.holds_iff.1 ((hs .minute).2 m hm)).2
    have h₂ := (Unit.holds_iff.1 ((hs .second).2 sec hsec)).2
    simp only [TimeOfDay.toSeconds, Unit.greatest] at *
    omega
  refine hinDay.of_iff fun l => ?_
  rw [mem_timesFrom hs hfloor]
  constructor
  · rintro ⟨h, hh, m, hm, sec, hsec, ⟨h₁, h₂, h₃⟩, rfl⟩
    exact ⟨h, hh, h₁, m, hm, h₂, sec, hsec, h₃, rfl⟩
  · rintro ⟨h, hh, h₁, m, hm, h₂, sec, hsec, h₃, rfl⟩
    exact ⟨h, hh, m, hm, sec, hsec, ⟨h₁, h₂, h₃⟩, rfl⟩

/-- The wall clock times of a day, from a time of day on, that the schedule allows within days. -/
def dayFrom (s : Schedule) (day : Int) (floor : TimeOfDay) : Set Int :=
  {l | l / 86400 = day ∧ s.AllowsIn dayUnits (.ofSeconds l) ∧ day * 86400 + floor.toSeconds ≤ l}

theorem mem_dayFrom {day : Int} {floor : TimeOfDay} {l : Int} : l ∈ dayFrom s day floor ↔
    Date.weekdayOfDays day ∈ s.weekdays ∧ l ∈ timesFrom s day floor := by
  have hweekday : l / 86400 = day →
      (LocalTime.ofSeconds l).ordinal .weekday = Date.weekdayOfDays day := by
    rintro rfl
    simp [LocalTime.ordinal, Date.weekday]
  simp only [dayFrom, timesFrom, dayUnits, Schedule.allowsIn_cons]
  constructor
  · rintro ⟨hday, ⟨hw, ht⟩, hle⟩
    exact ⟨hweekday hday ▸ hw, hday, ht, hle⟩
  · rintro ⟨hw, hday, ht, hle⟩
    exact ⟨hday, ⟨(hweekday hday).symm ▸ hw, ht⟩, hle⟩

theorem weekdayOfDays_mem_onAnyWeekday (day : Int) :
    Date.weekdayOfDays day ∈ s.onAnyWeekday.weekdays := by
  refine Unit.mem_between.2 ?_
  simp only [Date.weekdayOfDays, Unit.least, Unit.greatest]
  omega

/-- The times of a day, of whatever weekday it is. -/
theorem mem_dayFrom_onAnyWeekday (hs : s.IsProper) {day : Int} {floor : TimeOfDay}
    (hfloor : floor.IsReal) {l : Int} :
    l ∈ dayFrom s.onAnyWeekday day floor ↔ l ∈ timesFrom s day floor := by
  rw [mem_dayFrom, mem_timesFrom hs.onAnyWeekday hfloor, mem_timesFrom hs hfloor]
  exact and_iff_right (weekdayOfDays_mem_onAnyWeekday day)

/-- **The search within a day.** -/
theorem firstResult_onDay (hs : s.IsProper) (z : Zone) (day : Int) {floor : TimeOfDay}
    (hfloor : floor.IsReal) :
    FirstResult (dayFrom s.onAnyWeekday day floor) (s.outcome z) (s.onDay? z day floor) := by
  refine FirstResult.of_iff ?_ fun l => mem_dayFrom_onAnyWeekday hs hfloor
  have htimes {β : Type} (f : Int → Option β) := firstResult_firstTime hs day hfloor f
  have hday : ∀ l ∈ timesFrom s day floor, l / 86400 = day := fun l hl => hl.1
  unfold Schedule.onDay?
  -- when no time of day is left the zone is not looked at, and nothing can break down
  cases htime : s.firstTime? floor some with
  | none =>
      exact FirstResult.of_empty (timesFrom_empty hs hfloor (by rw [htime, Option.isNone_none]))
  | some t =>
  rw [if_neg (by simp)]
  by_cases hmissing : z.hasDay day = false
  · have hfirst := htimes fun _ => some (.error Breakdown.missingDate : Except Breakdown Int)
    have hmap := firstTime?_map s floor some
      fun _ => (.error Breakdown.missingDate : Except Breakdown Int)
    rw [htime] at hmap
    rw [if_pos (by simp [hmissing])]
    refine (hmap ▸ hfirst).congr (fun _ => Iff.rfl) fun l hl => ?_
    rw [Schedule.outcome_eq_error.2 ⟨hday l hl ▸ hmissing, rfl⟩]
  have hpresent : z.hasDay day = true := by simpa using hmissing
  rw [if_neg (by simp [hpresent])]
  by_cases hweekday : Date.weekdayOfDays day ∈ s.weekdays
  · rw [if_neg (by simpa using hweekday), firstTime?_map]
    refine (htimes fun l => (z.unique? l).map Except.ok).congr (fun _ => Iff.rfl) fun l hl => ?_
    simp [Schedule.outcome, hday l hl, hpresent, hweekday]
  · rw [if_pos (by simpa using hweekday)]
    intro l hl
    exact Schedule.outcome_eq_none.2
      ⟨(hday l hl).symm ▸ hpresent, fun hmem => absurd (hday l hl ▸ hmem) hweekday⟩

/-! ### The search within a month -/

/-- Of two wall clock times the one on the earlier date is the earlier. -/
theorem lt_of_earlier {l k : Int}
    (h : (LocalTime.ofSeconds l).date.Earlier (LocalTime.ofSeconds k).date) : l < k := by
  have hdays := Date.toDays_lt (Date.isReal_ofDays _) (Date.isReal_ofDays _) h
  rw [Date.toDays_ofDays, Date.toDays_ofDays] at hdays
  omega

/-- The order of a bound and a wall clock time by their dates and times of day. -/
theorem toSeconds_le_iff {d : Date} (hd : d.IsReal) {t : TimeOfDay} (ht : t.IsReal) {l : Int} :
    LocalTime.toSeconds ⟨d, t⟩ ≤ l ↔ d.Earlier (LocalTime.ofSeconds l).date ∨
      d = (LocalTime.ofSeconds l).date ∧ t.toSeconds ≤ l % 86400 := by
  have hlt := ht.toSeconds_lt
  have hdate : (LocalTime.ofSeconds l).date.IsReal := Date.isReal_ofDays _
  have hl : (LocalTime.ofSeconds l).date.toDays = l / 86400 := Date.toDays_ofDays _
  simp only [LocalTime.toSeconds]
  constructor
  · intro hle
    rcases Date.earlier_or_eq_or_earlier d (LocalTime.ofSeconds l).date with h | h | h
    · exact .inl h
    · refine .inr ⟨h, ?_⟩
      rw [h, hl] at hle
      omega
    · have := Date.toDays_lt hdate hd h
      omega
  · rintro (h | ⟨h, hle⟩)
    · have := Date.toDays_lt hd hdate h
      omega
    · rw [h, hl]
      omega

/-- The wall clock times of a month, from a day and a time on, that the schedule allows within
months. -/
def monthFrom (s : Schedule) (year month first : Nat) (floor : TimeOfDay) : Set Int :=
  {l | (LocalTime.ofSeconds l).date.year = year ∧ (LocalTime.ofSeconds l).date.month = month ∧
    s.AllowsIn monthUnits (.ofSeconds l) ∧ LocalTime.toSeconds ⟨⟨year, month, first⟩, floor⟩ ≤ l}

theorem isReal_midnight : TimeOfDay.IsReal ⟨0, 0, 0⟩ := ⟨by decide, by decide, by decide⟩

/-- The times of a month are those of its days; only the first day is searched from a time on. -/
theorem mem_monthFrom {year month first : Nat} (hfirst : Date.IsReal ⟨year, month, first⟩)
    {floor : TimeOfDay} (hfloor : floor.IsReal) {l : Int} :
    l ∈ monthFrom s year month first floor ↔ ∃ d ∈ s.days,
      ¬(d < first ∨ daysInMonth year month < d) ∧
        l ∈ dayFrom s (Date.toDays ⟨year, month, d⟩)
          (if d = first ∧ first ∈ s.days then floor else ⟨0, 0, 0⟩) := by
  constructor
  · rintro ⟨hyear, hmonth, hallowed, hle⟩
    rw [monthUnits, Schedule.allowsIn_cons] at hallowed
    obtain ⟨hday, hallowed⟩ := hallowed
    have hreal : (LocalTime.ofSeconds l).date.IsReal := Date.isReal_ofDays _
    have hl : (LocalTime.ofSeconds l).date.toDays = l / 86400 := Date.toDays_ofDays _
    have hdate : (LocalTime.ofSeconds l).date =
        ⟨year, month, (LocalTime.ofSeconds l).ordinal .day⟩ := by
      rw [← hyear, ← hmonth]
      rfl
    generalize (LocalTime.ofSeconds l).ordinal .day = d at hday hdate
    have hlength := hreal.day_le
    rw [hdate] at hlength hl
    have hbound := (toSeconds_le_iff hfirst hfloor).1 hle
    rw [hdate] at hbound
    simp only [Date.Earlier, Date.mk.injEq] at hbound hlength
    refine ⟨d, hday, by omega, hl.symm, hallowed, ?_⟩
    split
    · omega
    · -- a later day begins after the bound
      next hne =>
      have hne : d ≠ first := fun h => hne ⟨h, h ▸ hday⟩
      simp only [TimeOfDay.toSeconds]
      omega
  · rintro ⟨d, hday, hin, hl, hallowed, hle⟩
    have hreal : Date.IsReal ⟨year, month, d⟩ := by
      have := hfirst.day_pos
      refine ⟨hfirst.month_pos, hfirst.month_le, ?_, ?_⟩
      · dsimp only at *
        omega
      · dsimp only at *
        omega
    have hdate : (LocalTime.ofSeconds l).date = ⟨year, month, d⟩ :=
      (Date.ofDays_eq_iff hreal).2 hl
    refine ⟨by rw [hdate], by rw [hdate], ?_, (toSeconds_le_iff hfirst hfloor).2 ?_⟩
    · rw [monthUnits, Schedule.allowsIn_cons, LocalTime.ordinal, hdate]
      exact ⟨hday, hallowed⟩
    · rw [hdate]
      simp only [Date.Earlier, Date.mk.injEq, true_and]
      by_cases hd : d = first
      · subst hd
        rw [if_pos ⟨rfl, hday⟩] at hle
        omega
      · omega

/-- **The search within a month.** -/
theorem firstResult_inMonth (hs : s.IsProper) (z : Zone) {year month first : Nat}
    (hfirst : Date.IsReal ⟨year, month, first⟩) {floor : TimeOfDay} (hfloor : floor.IsReal) :
    FirstResult (monthFrom s.onAnyWeekday year month first floor) (s.outcome z)
      (s.inMonth? z year month first floor) := by
  have hstart : min first (daysInMonth year month) = first := Nat.min_eq_left hfirst.day_le
  have hdays (d : Nat) := Date.toDays_eq_first year month d
  simp only [Schedule.inMonth?, hstart]
  refine (FirstResult.findSome? s.days
    (fun d _ => .guarded _ fun hin => firstResult_onDay hs z _ ?_) ?_).of_iff
      fun l => mem_monthFrom hfirst hfloor
  · split
    · exact hfloor
    · exact isReal_midnight
  · refine (hs .day).1.imp ?_
    rintro d d' hlt l ⟨-, hl, -⟩ k ⟨-, hk, -⟩
    have h₁ := hdays d
    have h₂ := hdays d'
    omega

/-! ### The search within a year -/

/-- The wall clock times of a year, from a month, day and time on, that the schedule allows within
years. -/
def yearFrom (s : Schedule) (year : Nat) (floor : LocalTime) : Set Int :=
  {l | (LocalTime.ofSeconds l).date.year = year ∧ s.AllowsIn yearUnits (.ofSeconds l) ∧
    LocalTime.toSeconds ⟨⟨year, floor.date.month, floor.date.day⟩, floor.time⟩ ≤ l}

/-- The first second of a month is not after the times of that month and of later ones. -/
theorem toSeconds_first_le {year month : Nat} (h₁ : 1 ≤ month) (h₂ : month ≤ 12) {l : Int}
    (hyear : (LocalTime.ofSeconds l).date.year = year)
    (hmonth : month ≤ (LocalTime.ofSeconds l).date.month) :
    LocalTime.toSeconds ⟨⟨year, month, 1⟩, ⟨0, 0, 0⟩⟩ ≤ l := by
  refine (toSeconds_le_iff (Date.isReal_first h₁ h₂) isReal_midnight).2 ?_
  have hreal : (LocalTime.ofSeconds l).date.IsReal := Date.isReal_ofDays _
  have hday := hreal.day_pos
  generalize (LocalTime.ofSeconds l).date = d at hyear hmonth hday
  obtain ⟨y, m, d⟩ := d
  simp only [Date.Earlier, Date.mk.injEq, TimeOfDay.toSeconds] at *
  omega

/-- A month that is searched from its start on is searched as a whole. -/
theorem mem_monthFrom_midnight {year month : Nat} {l : Int} :
    l ∈ monthFrom s year month 1 ⟨0, 0, 0⟩ ↔ (LocalTime.ofSeconds l).date.year = year ∧
      (LocalTime.ofSeconds l).date.month = month ∧ s.AllowsIn monthUnits (.ofSeconds l) := by
  refine and_congr_right fun hyear => and_congr_right fun hmonth => and_iff_left ?_
  have hreal : (LocalTime.ofSeconds l).date.IsReal := Date.isReal_ofDays _
  exact toSeconds_first_le (hmonth ▸ hreal.month_pos) (hmonth ▸ hreal.month_le) hyear
    (Nat.le_of_eq hmonth.symm)

/-- The times of a year are those of its months; only the first month is searched from a day on. -/
theorem mem_yearFrom {year : Nat} {floor : LocalTime}
    (hfloor : Date.IsReal ⟨year, floor.date.month, floor.date.day⟩) (htime : floor.time.IsReal)
    {l : Int} : l ∈ yearFrom s year floor ↔ ∃ m ∈ s.months, ¬ m < floor.date.month ∧
      l ∈ if m = floor.date.month then monthFrom s year m floor.date.day floor.time
        else monthFrom s year m 1 ⟨0, 0, 0⟩ := by
  have hbound := toSeconds_le_iff hfloor htime (l := l)
  constructor
  · rintro ⟨hyear, hallowed, hle⟩
    rw [yearUnits, Schedule.allowsIn_cons] at hallowed
    refine ⟨(LocalTime.ofSeconds l).date.month, hallowed.1, ?_, ?_⟩
    · rw [hbound] at hle
      rcases hle with hle | ⟨hle, -⟩
      · simp only [Date.Earlier] at hle
        omega
      · rw [← hle]
        exact Nat.lt_irrefl _
    · split
      · next h => exact ⟨hyear, rfl, hallowed.2, h ▸ hle⟩
      · exact mem_monthFrom_midnight.2 ⟨hyear, rfl, hallowed.2⟩
  · rintro ⟨m, hm, hge, hl⟩
    by_cases h : m = floor.date.month
    · subst h
      rw [if_pos rfl] at hl
      obtain ⟨hyear, hmonth, hallowed, hle⟩ := hl
      refine ⟨hyear, ?_, hle⟩
      rw [yearUnits, Schedule.allowsIn_cons, LocalTime.ordinal, hmonth]
      exact ⟨hm, hallowed⟩
    · rw [if_neg h, mem_monthFrom_midnight] at hl
      obtain ⟨hyear, hmonth, hallowed⟩ := hl
      refine ⟨hyear, ?_, hbound.2 (.inl (.inr ⟨hyear.symm, .inl ?_⟩))⟩
      · rw [yearUnits, Schedule.allowsIn_cons, LocalTime.ordinal, hmonth]
        exact ⟨hm, hallowed⟩
      · rw [hmonth]
        dsimp only
        omega

/-- **The search within a year.** -/
theorem firstResult_inYear (hs : s.IsProper) (z : Zone) {year : Nat} {floor : LocalTime}
    (hfloor : Date.IsReal ⟨year, floor.date.month, floor.date.day⟩) (htime : floor.time.IsReal) :
    FirstResult (yearFrom s.onAnyWeekday year floor) (s.outcome z) (s.inYear? z year floor) := by
  refine (FirstResult.findSome? s.months (fun m hm => .guarded _ fun hin => ?_) ?_).of_iff
    fun l => mem_yearFrom hfloor htime
  · have hmonth := Unit.holds_iff.1 ((hs .month).2 m hm)
    split
    · next h =>
      subst h
      exact firstResult_inMonth hs z hfloor htime
    · exact firstResult_inMonth hs z (Date.isReal_first hmonth.1 hmonth.2) isReal_midnight
  · refine (hs .month).1.imp ?_
    rintro m m' hlt l ⟨-, hl⟩ k ⟨-, hk⟩
    have hl : (LocalTime.ofSeconds l).date.year = year ∧
        (LocalTime.ofSeconds l).date.month = m := by
      split at hl <;> exact ⟨hl.1, hl.2.1⟩
    have hk : (LocalTime.ofSeconds k).date.year = year ∧
        (LocalTime.ofSeconds k).date.month = m' := by
      split at hk <;> exact ⟨hk.1, hk.2.1⟩
    exact lt_of_earlier (.inr ⟨hl.1.trans hk.1.symm, .inl (by omega)⟩)

/-! ### The whole search -/

/-- A year that is searched as a whole. -/
theorem mem_yearFrom_wholeYear {year : Nat} {l : Int} : l ∈ yearFrom s year Schedule.wholeYear ↔
    (LocalTime.ofSeconds l).date.year = year ∧ s.AllowsIn yearUnits (.ofSeconds l) := by
  refine and_congr_right fun hyear => and_iff_left ?_
  have hreal : (LocalTime.ofSeconds l).date.IsReal := Date.isReal_ofDays _
  exact toSeconds_first_le (by decide) (by decide) hyear hreal.month_pos

/-- The wall clock times that the schedule allows, from one on. -/
def allowedFrom (s : Schedule) (floor : LocalTime) : Set Int :=
  {l | s.Allows (.ofSeconds l) ∧ floor.toSeconds ≤ l}

theorem year_eq_of_mem (hs : s.IsProper) {y : Int} (h : y.toNat ∈ s.years) : y = y.toNat := by
  have := (Unit.holds_iff.1 ((hs .year).2 _ h)).1
  simp only [Unit.least] at this
  omega

/-- A time that is not before a bound is of its year or of a later one. -/
theorem year_le_of_toSeconds_le {floor : LocalTime} (hdate : floor.date.IsReal)
    (htime : floor.time.IsReal) {l : Int} (h : floor.toSeconds ≤ l) :
    floor.date.year ≤ (LocalTime.ofSeconds l).date.year := by
  rcases (toSeconds_le_iff hdate htime).1 h with (h | ⟨h, -⟩) | ⟨h, -⟩
  · exact Int.le_of_lt h
  · exact Int.le_of_eq h
  · rw [h]

/-- The years from one that the schedule allows on. -/
theorem exists_years_from (hs : s.IsProper) {y : Int} (h : y.toNat ∈ s.years) :
    ∃ ys, (s.years.filter fun k : Nat => decide (y ≤ (k : Int))) = y.toNat :: ys ∧
      (y.toNat :: ys).Pairwise (· < ·) ∧ ∀ k, k ∈ ys ↔ k ∈ s.years ∧ y < (k : Int) := by
  have hy := year_eq_of_mem hs h
  have hascending := (hs .year).1.filter fun k : Nat => decide (y ≤ (k : Int))
  have hmem (k : Nat) : k ∈ (s.years.filter fun k : Nat => decide (y ≤ (k : Int))) ↔
      k ∈ s.years ∧ y ≤ (k : Int) := by
    simp
  change (s.years.filter fun k : Nat => decide (y ≤ (k : Int))).Pairwise (· < ·) at hascending
  cases hyears : s.years.filter fun k : Nat => decide (y ≤ (k : Int)) with
  | nil =>
      rw [hyears] at hmem
      exact absurd ((hmem y.toNat).2 ⟨h, by omega⟩) List.not_mem_nil
  | cons k ys =>
      rw [hyears] at hmem hascending
      have hhead := List.pairwise_cons.1 hascending
      -- the years ascend and `y` is among them, so none of those that are left comes before it
      obtain rfl : k = y.toNat := by
        rcases List.mem_cons.1 ((hmem y.toNat).2 ⟨h, by omega⟩) with heq | hlater
        · exact heq.symm
        · have h₁ := hhead.1 _ hlater
          have h₂ := ((hmem k).1 List.mem_cons_self).2
          omega
      refine ⟨ys, rfl, hascending, fun k => ?_⟩
      constructor
      · intro hk
        have := hhead.1 k hk
        exact ⟨((hmem k).1 (List.mem_cons_of_mem _ hk)).1, by omega⟩
      · rintro ⟨hk, hlt⟩
        rcases List.mem_cons.1 ((hmem k).2 ⟨hk, by omega⟩) with rfl | hk
        · omega
        · exact hk

/-- The times from a bound on are those of its year from the bound on and those of all later
years. -/
theorem mem_allowedFrom (hs : s.IsProper) {floor : LocalTime} (hdate : floor.date.IsReal)
    (htime : floor.time.IsReal) {year : Nat} (hyear : floor.date.year = year)
    (hmem : year ∈ s.years) {ys : List Nat}
    (hys : ∀ k, k ∈ ys ↔ k ∈ s.years ∧ floor.date.year < (k : Int)) {l : Int} :
    l ∈ allowedFrom s floor ↔
      l ∈ yearFrom s year floor ∪ {l | ∃ y ∈ ys, l ∈ yearFrom s y Schedule.wholeYear} := by
  have hbound : floor.toSeconds =
      LocalTime.toSeconds ⟨⟨year, floor.date.month, floor.date.day⟩, floor.time⟩ := by
    rw [← hyear]
  constructor
  · rintro ⟨hallowed, hle⟩
    obtain ⟨hin, hallowed⟩ := Schedule.allows_iff.1 hallowed
    have hl := year_eq_of_mem hs hin
    rcases Int.lt_or_eq_of_le (year_le_of_toSeconds_le hdate htime hle) with hlt | heq
    · exact .inr ⟨_, (hys _).2 ⟨hin, by omega⟩, mem_yearFrom_wholeYear.2 ⟨hl, hallowed⟩⟩
    · exact .inl ⟨by omega, hallowed, hbound ▸ hle⟩
  · rintro (⟨hl, hallowed, hle⟩ | ⟨y, hy, hl⟩)
    · refine ⟨Schedule.allows_iff.2 ⟨?_, hallowed⟩, hbound ▸ hle⟩
      rw [hl]
      exact hmem
    · obtain ⟨hl, hallowed⟩ := mem_yearFrom_wholeYear.1 hl
      obtain ⟨hin, hlt⟩ := (hys y).1 hy
      refine ⟨Schedule.allows_iff.2 ⟨?_, hallowed⟩, ?_⟩
      · rw [hl]
        exact hin
      · exact (toSeconds_le_iff hdate htime).2 (.inl (.inl (by omega)))

/-- A search that starts in a year the schedule allows. -/
theorem firstResult_search_of_mem (hs : s.IsProper) (z : Zone) {floor : LocalTime}
    (hdate : floor.date.IsReal) (htime : floor.time.IsReal)
    (hyear : floor.date.year.toNat ∈ s.years) :
    FirstResult (allowedFrom s.onAnyWeekday floor) (s.outcome z) (s.search? z floor) := by
  obtain ⟨ys, hfilter, hascending, hys⟩ := exists_years_from hs hyear
  have hy := year_eq_of_mem hs hyear
  have hnot : ¬ floor.date.year < 0 := by omega
  rw [Schedule.search?, if_neg hnot, hfilter]
  have hfloor : floor.date = ⟨floor.date.year.toNat, floor.date.month, floor.date.day⟩ := by
    rw [← hy]
  have hfirst : Date.IsReal ⟨floor.date.year.toNat, floor.date.month, floor.date.day⟩ :=
    hfloor ▸ hdate
  have hwhole (y : Nat) : Date.IsReal ⟨y, 1, 1⟩ := Date.isReal_first (by decide) (by decide)
  -- the year of the bound is searched from the bound on, and every later one as a whole
  refine ((firstResult_inYear hs z hfirst htime).or (FirstResult.findSome? ys
    (fun y _ => firstResult_inYear hs z (hwhole y) isReal_midnight) ?_) ?_).of_iff
      fun l => mem_allowedFrom hs.onAnyWeekday hdate htime hy hyear hys
  · refine (List.pairwise_cons.1 hascending).2.imp ?_
    rintro y y' hlt l ⟨hl, -⟩ k ⟨hk, -⟩
    exact lt_of_earlier (.inl (by omega))
  · rintro l ⟨hl, -⟩ k ⟨y, hmem, hk, -⟩
    have hlt := ((hys y).1 hmem).2
    exact lt_of_earlier (.inl (by omega))

/-- A search that starts after all years that the schedule allows. -/
theorem firstResult_search_of_lt (hs : s.IsProper) (z : Zone) {floor : LocalTime}
    (hdate : floor.date.IsReal) (htime : floor.time.IsReal)
    (hyear : ∀ y ∈ s.years, (y : Int) < floor.date.year) :
    FirstResult (allowedFrom s.onAnyWeekday floor) (s.outcome z) (s.search? z floor) := by
  have hfilter : (s.years.filter fun y : Nat => decide (floor.date.year ≤ (y : Int))) = [] := by
    rw [List.filter_eq_nil_iff]
    intro y hy
    simpa using hyear y hy
  have hnone : s.search? z floor = none := by
    rw [Schedule.search?, hfilter]
    exact ite_self none
  rw [hnone]
  refine FirstResult.of_empty ?_
  rintro l ⟨hallowed, hle⟩
  have hmem := (Schedule.allows_iff.1 hallowed).1
  have hl := year_eq_of_mem hs hmem
  have hlt := hyear _ hmem
  have hge := year_le_of_toSeconds_le hdate htime hle
  omega

/-- **The search gives what comes of the first time that anything comes of.**  The schedule allows
the year that the search starts in, or none from that year on. -/
theorem firstResult_search (hs : s.IsProper) (z : Zone) {floor : LocalTime}
    (hdate : floor.date.IsReal) (htime : floor.time.IsReal)
    (hyear : floor.date.year.toNat ∈ s.years ∨ ∀ y ∈ s.years, (y : Int) < floor.date.year) :
    FirstResult (allowedFrom s.onAnyWeekday floor) (s.outcome z) (s.search? z floor) :=
  hyear.elim (firstResult_search_of_mem hs z hdate htime)
    (firstResult_search_of_lt hs z hdate htime)

/-! ### What is found -/

/-- **What a search among wall clock times gives**: the second of the first of them that belongs to
exactly one, nothing when none does; or it breaks down on a date, not before `lo`, that the zone
does not have. -/
def Finds (z : Zone) (lo : Int) (S : Set Int) : Option (Except Breakdown Int) → Prop
  | none => ∀ l ∈ S, z.unique? l = none
  | some (.ok u) => ∃ l ∈ S, z.unique? l = some u ∧ ∀ k ∈ S, k < l → z.unique? k = none
  | some (.error _) => ∃ day, lo ≤ day ∧ z.hasDay day = false

/-- A time that the schedule allows, and the weekday of its date. -/
theorem Schedule.allows_iff_onAnyWeekday {l : Int} : s.Allows (.ofSeconds l) ↔
    s.onAnyWeekday.Allows (.ofSeconds l) ∧ Date.weekdayOfDays (l / 86400) ∈ s.weekdays := by
  have hweekday : (LocalTime.ofSeconds l).ordinal .weekday = Date.weekdayOfDays (l / 86400) := by
    simp [LocalTime.ordinal, Date.weekday]
  constructor
  · intro h
    refine ⟨fun u => ?_, hweekday ▸ h .weekday⟩
    by_cases hu : u = .weekday
    · subst hu
      exact hweekday.symm ▸ weekdayOfDays_mem_onAnyWeekday _
    · exact s.ordinals_onAnyWeekday hu ▸ h u
  · rintro ⟨h, hmem⟩ u
    by_cases hu : u = .weekday
    · subst hu
      exact hweekday.symm ▸ hmem
    · exact s.ordinals_onAnyWeekday hu ▸ h u

/-- **The search finds the first time of the schedule that belongs to exactly one second.**  The
schedule allows the year that the search starts in, or none from that year on. -/
theorem finds_search (hs : s.IsProper) {floor : LocalTime} (hdate : floor.date.IsReal)
    (htime : floor.time.IsReal)
    (hyear : floor.date.year.toNat ∈ s.years ∨ ∀ y ∈ s.years, (y : Int) < floor.date.year) :
    Finds z floor.date.toDays (allowedFrom s floor) (s.search? z floor) := by
  have hmem {l : Int} : l ∈ allowedFrom s floor ↔ l ∈ allowedFrom s.onAnyWeekday floor ∧
      Date.weekdayOfDays (l / 86400) ∈ s.weekdays := by
    simp only [allowedFrom, Set.mem_ofPred_eq, Schedule.allows_iff_onAnyWeekday (s := s),
      and_right_comm]
  have hfirst := firstResult_search hs z hdate htime hyear
  have hunique : ∀ l ∈ allowedFrom s floor, s.outcome z l = none → z.unique? l = none :=
    fun l hl hnone => (Schedule.outcome_eq_none.1 hnone).2 (hmem.1 hl).2
  generalize s.search? z floor = r at hfirst
  match r with
  | none => exact fun l hl => hunique l hl (hfirst l (hmem.1 hl).1)
  | some (.ok u) =>
      obtain ⟨l, hl, hu, hbefore⟩ := hfirst
      obtain ⟨-, hweekday, hu⟩ := Schedule.outcome_eq_ok.1 hu
      exact ⟨l, hmem.2 ⟨hl, hweekday⟩, hu,
        fun k hk hlt => hunique k hk (hbefore k (hmem.1 hk).1 hlt)⟩
  | some (.error b) =>
      obtain ⟨l, ⟨-, hle⟩, hb, -⟩ := hfirst
      refine ⟨l / 86400, ?_, (Schedule.outcome_eq_error.1 hb).1⟩
      have := htime.toSeconds_lt
      simp only [LocalTime.toSeconds] at hle
      omega

/-! ### Searches from any year -/

/-- What is found within a year belongs to exactly one second and is of that year, also when the
year does not have the date of the bound. -/
theorem exists_of_inYear (hs : s.IsProper) {year : Nat} {floor : LocalTime}
    (htime : floor.time.IsReal) {u : Int} (h : s.inYear? z year floor = some (.ok u)) :
    ∃ l, z.unique? l = some u ∧ (LocalTime.ofSeconds l).date.year = year := by
  have hinMonth {m first : Nat} {time : TimeOfDay} (hm : m ∈ s.months) (htime : time.IsReal)
      (h : s.inMonth? z year m first time = some (.ok u)) :
      ∃ l, z.unique? l = some u ∧ (LocalTime.ofSeconds l).date.year = year := by
    obtain ⟨d, hd, h⟩ := List.exists_of_findSome?_eq_some h
    split at h
    · cases h
    next hin =>
    have hmonth := Unit.holds_iff.1 ((hs .month).2 m hm)
    have hday := Unit.holds_iff.1 ((hs .day).2 d hd)
    have hreal : Date.IsReal ⟨year, m, d⟩ := ⟨hmonth.1, hmonth.2, hday.1, by
      dsimp only
      omega⟩
    have hbound : TimeOfDay.IsReal (if d = min first (daysInMonth year m) ∧ first ∈ s.days
        then time else ⟨0, 0, 0⟩) := by
      split
      · exact htime
      · exact isReal_midnight
    have hfirst := firstResult_onDay hs z (Date.toDays ⟨year, m, d⟩) hbound
    rw [h] at hfirst
    obtain ⟨l, ⟨hl, -⟩, hu, -⟩ := hfirst
    refine ⟨l, (Schedule.outcome_eq_ok.1 hu).2.2, ?_⟩
    rw [LocalTime.date_ofSeconds, (Date.ofDays_eq_iff hreal).2 hl]
  obtain ⟨m, hm, h⟩ := List.exists_of_findSome?_eq_some h
  split at h
  · cases h
  · split at h
    · exact hinMonth hm htime h
    · exact hinMonth hm isReal_midnight h

/-- What is found is found within one of the years of the schedule that are searched. -/
theorem exists_inYear_of_search {floor : LocalTime} (htime : floor.time.IsReal) {u : Int}
    (h : s.search? z floor = some (.ok u)) : ∃ y ∈ s.years, floor.date.year ≤ (y : Int) ∧
      ∃ bound : LocalTime, bound.time.IsReal ∧ s.inYear? z y bound = some (.ok u) := by
  rw [Schedule.search?] at h
  split at h
  · cases h
  have hmem (y : Nat) : y ∈ (s.years.filter fun y : Nat => decide (floor.date.year ≤ (y : Int))) →
      y ∈ s.years ∧ floor.date.year ≤ (y : Int) := by
    simp
  split at h
  · cases h
  next y ys hyears =>
  rw [hyears] at hmem
  rcases Option.or_eq_some_iff.1 h with h | ⟨-, h⟩
  · obtain ⟨hy, hle⟩ := hmem y List.mem_cons_self
    exact ⟨y, hy, hle, floor, htime, h⟩
  · obtain ⟨y', hy', h⟩ := List.exists_of_findSome?_eq_some h
    obtain ⟨hy, hle⟩ := hmem y' (List.mem_cons_of_mem y hy')
    exact ⟨y', hy, hle, Schedule.wholeYear, isReal_midnight, h⟩

/-- What is found belongs to exactly one second and is of one of the years of the schedule. -/
theorem exists_year_of_search (hs : s.IsProper) {floor : LocalTime} (htime : floor.time.IsReal)
    {u : Int} (h : s.search? z floor = some (.ok u)) :
    ∃ l, z.unique? l = some u ∧ ∃ y ∈ s.years, (LocalTime.ofSeconds l).date.year = y := by
  obtain ⟨y, hy, -, bound, hbound, h⟩ := exists_inYear_of_search htime h
  obtain ⟨l, hu, hl⟩ := exists_of_inYear hs hbound h
  exact ⟨l, hu, y, hy, hl⟩

/-- **What is found belongs to exactly one second and is not before the bound**, whether or not the
schedule allows the year of the bound. -/
theorem exists_of_search (hs : s.IsProper) {floor : LocalTime} (hdate : floor.date.IsReal)
    (htime : floor.time.IsReal) {u : Int} (h : s.search? z floor = some (.ok u)) :
    ∃ l, floor.toSeconds ≤ l ∧ z.unique? l = some u := by
  by_cases hyear : floor.date.year.toNat ∈ s.years
  · have hfinds := finds_search (z := z) hs hdate htime (.inl hyear)
    rw [h] at hfinds
    obtain ⟨l, ⟨-, hle⟩, hu, -⟩ := hfinds
    exact ⟨l, hle, hu⟩
  -- all years that are searched are later than that of the bound
  obtain ⟨y, hy, hle, bound, hbound, h⟩ := exists_inYear_of_search htime h
  obtain ⟨l, hu, hl⟩ := exists_of_inYear hs hbound h
  have hne : floor.date.year ≠ (y : Int) := by
    intro heq
    exact hyear (by rwa [heq, Int.toNat_natCast])
  exact ⟨l, (toSeconds_le_iff hdate htime).2 (.inl (.inl (by omega))), hu⟩

end Cron

end NodeSidecar
