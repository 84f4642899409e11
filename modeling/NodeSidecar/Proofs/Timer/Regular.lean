/-
**Timers that are set by a time.**

A timer that fires every hour, day or week is built from the expression of its settings.  It is
refused when a setting is out of range.  Otherwise its expression is one of plain fields, and the
seconds at which it fires are those with a fixed remainder on division by its period, so that its
fires are an arithmetic progression from the first after the start to the end of 2100.

Main definitions:

* `RegularTimer` — a timer that is set by a time, with its settings, its period and the times at
  which it fires;
* `RegularTimer.InRange` — the settings are in range;
* `RegularTimer.fields`, `RegularTimer.words` — its expression, as it is read and as it is written;
* `RegularTimer.occurrence` — the instants of its progression.

Main results:

* `RegularTimer.exists_schedule` — settings in range make up a schedule;
* `RegularTimer.shows_iff` — a regular timer fires at the seconds with a fixed remainder;
* `RegularTimer.regular_timers_are_progressions` — **a regular timer is refused for its first
  setting out of range, and else fires in a progression.**
-/

import NodeSidecar.Proofs.Cron.Plain
import NodeSidecar.Proofs.Timer.Progressions

set_option autoImplicit false

namespace NodeSidecar

/-- The number of a weekday, from 1 for Sunday. -/
def Weekday.number : Weekday → Nat
  | .sunday => 1
  | .monday => 2
  | .tuesday => 3
  | .wednesday => 4
  | .thursday => 5
  | .friday => 6
  | .saturday => 7

/-- The code of a weekday is its name in expressions. -/
theorem Weekday.exists_named (day : Weekday) : day.code.toList ≠ [] ∧
    (∀ c ∈ day.code.toList, Text.isLetter c = true) ∧
      Cron.Unit.weekday.named? day.code.toList = some day.number := by
  have hletters : day.code.toList.all Text.isLetter = true := by cases day <;> decide
  exact ⟨by cases day <;> decide, List.all_eq_true.1 hletters, by cases day <;> decide⟩

/-- A timer that fires at a time of every hour, day or week. -/
inductive RegularTimer where
  | hourly (minute second : Nat)
  | daily (hour minute second : Nat)
  | weekly (day : Weekday) (hour minute second : Nat)

namespace RegularTimer

/-- The timer with these settings. -/
def build : RegularTimer → Except TimerError Timer
  | hourly minute second => Timer.hourly minute second
  | daily hour minute second => Timer.daily hour minute second
  | weekly day hour minute second => Timer.weekly day hour minute second

/-- The settings that have a range, in the order in which they are checked. -/
def settings : RegularTimer → List (TimeField × Nat)
  | hourly minute second => [(.minute, minute), (.second, second)]
  | daily hour minute second | weekly _ hour minute second =>
    [(.hour, hour), (.minute, minute), (.second, second)]

/-- The seconds from one fire to the next. -/
def period : RegularTimer → Nat
  | hourly .. => 3600
  | daily .. => 86400
  | weekly .. => 604800

/-- The wall clock times at which a timer fires. -/
def Shows : RegularTimer → LocalTime → Prop
  | hourly minute second, c => c.time.minute = minute ∧ c.time.second = second
  | daily hour minute second, c => c.time = ⟨hour, minute, second⟩
  | weekly day hour minute second, c =>
    c.date.weekday = day.number ∧ c.time = ⟨hour, minute, second⟩

/-- All settings are in range. -/
def InRange (r : RegularTimer) : Prop := ∀ f ∈ r.settings, f.2 ≤ f.1.greatest

/-- The first setting that is out of range. -/
def firstOutOfRange? (r : RegularTimer) : Option (TimeField × Nat) :=
  r.settings.find? fun f => decide (f.1.greatest < f.2)

/-! ### The expression of a regular timer -/

/-- The fields of the expression, as they are read. -/
def fields : RegularTimer → Cron.Unit → Cron.Plain
  | hourly _ second, .second | daily _ _ second, .second | weekly _ _ _ second, .second =>
    .point second
  | hourly minute _, .minute | daily _ minute _, .minute | weekly _ _ minute _, .minute =>
    .point minute
  | daily hour _ _, .hour | weekly _ hour _ _, .hour => .point hour
  | weekly day _ _ _, .weekday => .name day.code.toList
  | _, _ => .all

/-- The unit for which the expression has the sign for any value. -/
def openUnit : RegularTimer → Cron.Unit
  | hourly .. | daily .. => .weekday
  | weekly .. => .day

/-- The words of the expression, as they are written. -/
def words (r : RegularTimer) : List String :=
  Cron.positions.map fun u => if u = r.openUnit then "?" else (r.fields u).text

/-- What comes after a number of checks: the first one that refuses decides. -/
theorem foldr_check (settings : List (TimeField × Nat)) (next : Except TimerError Timer) :
    settings.foldr (fun f next => Timer.check f.1 f.2 >>= fun _ => next) next =
      match settings.find? fun f => decide (f.1.greatest < f.2) with
      | some f => .error (.outOfRange f.1 f.2)
      | none => next := by
  induction settings with
  | nil => rfl
  | cons f fs ih =>
      rw [List.foldr_cons, List.find?_cons]
      by_cases h : f.2 ≤ f.1.greatest
      · have hcheck : Timer.check f.1 f.2 = .ok () := if_pos h
        rw [hcheck, decide_eq_false (Nat.not_lt.2 h)]
        exact ih
      · have hcheck : Timer.check f.1 f.2 = .error (.outOfRange f.1 f.2) := if_neg h
        rw [hcheck, decide_eq_true (Nat.lt_of_not_le h)]
        rfl

/-- The expression of a daily timer, as it is written. -/
theorem intercalate_words_daily (hour minute second : Nat) :
    " ".intercalate (daily hour minute second).words =
      toString second ++ " " ++ toString minute ++ " " ++ toString hour ++ " * * ?" := by
  apply String.toList_injective
  simp [words, Cron.positions, openUnit, fields, Cron.Plain.toList_text, Cron.Plain.chars,
    Text.digits]

/-- A timer is refused for its first setting out of range, and else built from its words. -/
theorem build_eq (r : RegularTimer) : r.build =
    match r.firstOutOfRange? with
    | some f => .error (.outOfRange f.1 f.2)
    | none => Timer.ofCron (" ".intercalate r.words) := by
  rw [firstOutOfRange?, ← foldr_check]
  cases r with
  | hourly minute second =>
      have hwords : " ".intercalate (hourly minute second).words =
          toString second ++ " " ++ toString minute ++ " * * * ?" := by
        apply String.toList_injective
        simp [words, Cron.positions, openUnit, fields, Cron.Plain.toList_text, Cron.Plain.chars,
          Text.digits]
      simp only [hwords, build, Timer.hourly, settings, List.foldr_cons, List.foldr_nil]
  | daily hour minute second =>
      simp only [intercalate_words_daily, build, Timer.daily, settings, List.foldr_cons,
        List.foldr_nil]
  | weekly day hour minute second =>
      have hwords : " ".intercalate (weekly day hour minute second).words =
          toString second ++ " " ++ toString minute ++ " " ++ toString hour ++ " ? * " ++
            day.code := by
        apply String.toList_injective
        simp [words, Cron.positions, openUnit, fields, Cron.Plain.toList_text, Cron.Plain.chars,
          Text.digits]
      simp only [hwords, build, Timer.weekly, settings, List.foldr_cons, List.foldr_nil]

/-- The settings are in range when none of them is out of range. -/
theorem firstOutOfRange?_eq_none (r : RegularTimer) : r.firstOutOfRange? = none ↔ r.InRange := by
  simp [firstOutOfRange?, InRange, List.find?_eq_none]

/-- The fields of a timer with settings in range make sense. -/
theorem suits_fields {r : RegularTimer} (h : r.InRange) (u : Cron.Unit) : (r.fields u).Suits u := by
  have hpoint {v : Cron.Unit} {n : Nat} (hleast : v.least = 0) (hn : n ≤ v.greatest) :
      (Cron.Plain.point n).Suits v := Cron.Unit.holds_iff.2 ⟨by omega, hn⟩
  cases r with
  | hourly minute second =>
      simp only [InRange, settings, List.forall_mem_cons] at h
      obtain ⟨hminute, hsecond, -⟩ := h
      cases u with
      | second => exact hpoint rfl hsecond
      | minute => exact hpoint rfl hminute
      | _ => exact trivial
  | daily hour minute second =>
      simp only [InRange, settings, List.forall_mem_cons] at h
      obtain ⟨hhour, hminute, hsecond, -⟩ := h
      cases u with
      | second => exact hpoint rfl hsecond
      | minute => exact hpoint rfl hminute
      | hour => exact hpoint rfl hhour
      | _ => exact trivial
  | weekly day hour minute second =>
      simp only [InRange, settings, List.forall_mem_cons] at h
      obtain ⟨hhour, hminute, hsecond, -⟩ := h
      cases u with
      | second => exact hpoint rfl hsecond
      | minute => exact hpoint rfl hminute
      | hour => exact hpoint rfl hhour
      | weekday =>
          obtain ⟨hne, hletters, hnamed⟩ := day.exists_named
          exact ⟨hne, hletters, _, hnamed⟩
      | _ => exact trivial

/-- The words of a timer are read as its fields. -/
theorem fieldsOf_words {r : RegularTimer} (h : r.InRange) :
    Cron.fieldsOf (" ".intercalate r.words) = Cron.positions.map fun u => (r.fields u).text := by
  have hopen : (r.fields r.openUnit).text = "*" := by cases r <;> rfl
  rw [Cron.fieldsOf_intercalate (by simp [words, Cron.positions]), words, List.map_map]
  · refine List.map_congr_left fun u _ => ?_
    by_cases hu : u = r.openUnit
    · simp [hu, hopen, Cron.plainField]
    · simp [hu, Cron.plainField_text (suits_fields h u)]
  · intro w hw
    obtain ⟨u, -, rfl⟩ := List.mem_map.1 hw
    split
    · have hsign : "?".toList.all (fun c => !Text.isBlank c) = true := by decide
      exact ⟨by decide, fun c hc => by simpa using List.all_eq_true.1 hsign c hc⟩
    · exact Cron.Plain.visible_text (suits_fields h u)

/-- The ordinals that a clock shows belong to their units. -/
theorem holds_ordinal (l : Int) {u : Cron.Unit} (hu : u ∈ Cron.positions) :
    u.holds ((LocalTime.ofSeconds l).ordinal u) = true := by
  have hdate : (LocalTime.ofSeconds l).date.IsReal := Date.isReal_ofDays _
  have htime := LocalTime.isReal_time l
  refine Cron.Unit.holds_iff.2 ?_
  cases u with
  | second => exact ⟨Nat.zero_le _, Nat.le_of_lt_succ htime.second_lt⟩
  | minute => exact ⟨Nat.zero_le _, Nat.le_of_lt_succ htime.minute_lt⟩
  | hour => exact ⟨Nat.zero_le _, Nat.le_of_lt_succ htime.hour_lt⟩
  | day => exact ⟨hdate.day_pos, Nat.le_trans hdate.day_le (daysInMonth_le _ _)⟩
  | month => exact ⟨hdate.month_pos, hdate.month_le⟩
  | weekday =>
      simp only [LocalTime.ordinal, Date.weekday, Date.weekdayOfDays, Cron.Unit.least,
        Cron.Unit.greatest]
      omega
  | year => simp [Cron.positions] at hu

/-- The fields of a timer stand for the times at which it fires. -/
theorem has_fields_iff (r : RegularTimer) (l : Int) :
    (∀ u ∈ Cron.positions, (r.fields u).Has u ((LocalTime.ofSeconds l).ordinal u)) ↔
      r.Shows (.ofSeconds l) := by
  have hall {u : Cron.Unit} (hu : u ∈ Cron.positions) :
      Cron.Plain.Has u .all ((LocalTime.ofSeconds l).ordinal u) := holds_ordinal l hu
  cases r with
  | hourly minute second =>
      constructor
      · intro h
        exact ⟨h .minute (by decide), h .second (by decide)⟩
      · rintro ⟨hminute, hsecond⟩ u hu
        cases u with
        | minute => exact hminute
        | second => exact hsecond
        | _ => exact hall hu
  | daily hour minute second =>
      constructor
      · intro h
        have hhour : _ = hour := h .hour (by decide)
        have hminute : _ = minute := h .minute (by decide)
        have hsecond : _ = second := h .second (by decide)
        rw [← hhour, ← hminute, ← hsecond]
        rfl
      · intro htime u hu
        cases u with
        | hour => exact congrArg TimeOfDay.hour htime
        | minute => exact congrArg TimeOfDay.minute htime
        | second => exact congrArg TimeOfDay.second htime
        | _ => exact hall hu
  | weekly day hour minute second =>
      have hnamed := day.exists_named.2.2
      constructor
      · intro h
        have hweekday : Cron.Unit.weekday.named? day.code.toList = some _ := h .weekday (by decide)
        rw [hnamed] at hweekday
        have hhour : _ = hour := h .hour (by decide)
        have hminute : _ = minute := h .minute (by decide)
        have hsecond : _ = second := h .second (by decide)
        refine ⟨(Option.some.inj hweekday).symm, ?_⟩
        rw [← hhour, ← hminute, ← hsecond]
        rfl
      · rintro ⟨hweekday, htime⟩ u hu
        cases u with
        | hour => exact congrArg TimeOfDay.hour htime
        | minute => exact congrArg TimeOfDay.minute htime
        | second => exact congrArg TimeOfDay.second htime
        | weekday => exact hnamed.trans (congrArg some hweekday.symm)
        | _ => exact hall hu

/-- The remainder of the seconds at which a timer fires. -/
def phase : RegularTimer → Nat
  | hourly minute second => minute * 60 + second
  | daily hour minute second => hour * 3600 + minute * 60 + second
  | weekly day hour minute second =>
    (day.number + 2) % 7 * 86400 + (hour * 3600 + minute * 60 + second)

theorem phase_lt {r : RegularTimer} (h : r.InRange) : r.phase < r.period := by
  cases r with
  | hourly minute second =>
      simp only [InRange, settings, List.forall_mem_cons, TimeField.greatest] at h
      simp only [phase, period]
      omega
  | daily hour minute second =>
      simp only [InRange, settings, List.forall_mem_cons, TimeField.greatest] at h
      simp only [phase, period]
      omega
  | weekly day hour minute second =>
      simp only [InRange, settings, List.forall_mem_cons, TimeField.greatest] at h
      simp only [phase, period]
      omega

/-- **A regular timer fires at the seconds with a fixed remainder.** -/
theorem shows_iff {r : RegularTimer} (h : r.InRange) {l : Int} :
    r.Shows (.ofSeconds l) ↔ l % r.period = r.phase := by
  cases r with
  | hourly minute second =>
      simp only [InRange, settings, List.forall_mem_cons, TimeField.greatest] at h
      simp only [Shows, phase, period, LocalTime.time_ofSeconds, TimeOfDay.ofSeconds]
      omega
  | daily hour minute second =>
      simp only [InRange, settings, List.forall_mem_cons, TimeField.greatest] at h
      simp only [Shows, phase, period, LocalTime.time_ofSeconds, TimeOfDay.ofSeconds,
        TimeOfDay.mk.injEq]
      omega
  | weekly day hour minute second =>
      simp only [InRange, settings, List.forall_mem_cons, TimeField.greatest] at h
      have hnumber : 1 ≤ day.number ∧ day.number ≤ 7 := by cases day <;> decide
      -- the count begins on a Thursday, whose number is 5
      simp only [Shows, phase, period, LocalTime.time_ofSeconds, TimeOfDay.ofSeconds,
        TimeOfDay.mk.injEq, LocalTime.date_ofSeconds, Date.weekday, Date.toDays_ofDays,
        Date.weekdayOfDays]
      omega

/-- The expression of a timer with settings in range is that of a schedule, which allows in every
year the times at which the timer fires. -/
theorem exists_schedule_of_words {r : RegularTimer} (h : r.InRange) : ∃ s,
    Cron.Schedule.ofExpression (" ".intercalate r.words) = .ok s ∧
      s.years = Cron.Unit.year.ordinals ∧
      ∀ l, s.AllowsIn Cron.positions (.ofSeconds l) ↔ r.Shows (.ofSeconds l) := by
  obtain ⟨s, hs, hyears, hordinals⟩ := Cron.exists_schedule_of_plain r.fields
    (fun u _ => suits_fields h u) (fieldsOf_words h)
  refine ⟨s, hs, hyears, fun l => ?_⟩
  rw [← has_fields_iff]
  exact forall₂_congr fun u hu => hordinals u hu _

/-- **Settings in range make up a schedule**, which allows in every year the times at which the
timer fires. -/
theorem exists_schedule {r : RegularTimer} (h : r.InRange) : ∃ t s, r.build = .ok t ∧
    t = .cron ⟨" ".intercalate r.words, Zone.utc, s⟩ ∧ s.IsProper ∧
      s.years = Cron.Unit.year.ordinals ∧
      ∀ l, s.AllowsIn Cron.positions (.ofSeconds l) ↔ r.Shows (.ofSeconds l) := by
  obtain ⟨s, hs, hyears, hallowed⟩ := exists_schedule_of_words h
  refine ⟨_, s, ?_, rfl, Cron.isProper_of_ofExpression hs, hyears, hallowed⟩
  rw [build_eq, (firstOutOfRange?_eq_none r).2 h]
  simp only [Timer.ofCron, Timer.ofExpression, hs]

/-! ### The fires of a regular timer -/

/-- The `k`-th instant of a progression that begins at `first`, up to the end of 2100. -/
def occurrence (r : RegularTimer) (first : Instant) (k : Nat) : Option Instant :=
  (first.shift? (k * (r.period * nanosPerSecond) : Nat)).filter fun i =>
    decide ((Zone.utc.localTime i).date.year ≤ 2100)

theorem occurrence_eq (r : RegularTimer) {first : Instant} (h : first.fraction = 0) (k : Nat) :
    r.occurrence first k = withinCalendar (first.second + k * r.period) := by
  have hnanos : first.nanos = first.second * 1000000000 := by
    simp only [Instant.second, Instant.fraction] at *
    omega
  have hsum : first.nanos + (k * (r.period * nanosPerSecond) : Nat) =
      (first.second + k * r.period) * 1000000000 := by
    rw [hnanos, Int.add_mul, Int.mul_assoc]
    simp
  rw [occurrence, withinCalendar, Instant.shift?, hsum, Instant.ofSecond?]

/-- A timer with a setting out of range is refused for the first of them. -/
theorem build_of_not_inRange {r : RegularTimer} (h : ¬ r.InRange) :
    ∃ f, r.firstOutOfRange? = some f ∧ r.build = .error (.outOfRange f.1 f.2) := by
  obtain ⟨f, hf⟩ := Option.ne_none_iff_exists'.1 (mt (firstOutOfRange?_eq_none r).1 h)
  exact ⟨f, hf, by rw [build_eq, hf]⟩

theorem exists_build_iff (r : RegularTimer) : (∃ t, r.build = .ok t) ↔ r.InRange := by
  constructor
  · rintro ⟨t, ht⟩
    by_contra hout
    obtain ⟨f, -, hf⟩ := build_of_not_inRange hout
    exact absurd (hf.symm.trans ht) nofun
  · intro h
    obtain ⟨t, -, ht, -⟩ := exists_schedule h
    exact ⟨t, ht⟩

/-- **A timer that is set by a time is refused for its first setting out of range, and else fires in
a progression**: its fires are the first instant after the start that shows the time, and those
that follow at a distance of one period each, up to the end of 2100. -/
theorem regular_timers_are_progressions (r : RegularTimer) :
    ((∃ t, r.build = .ok t) ↔ r.InRange) ∧
      (¬ r.InRange → ∃ f, r.firstOutOfRange? = some f ∧
        r.build = .error (.outOfRange f.1 f.2)) ∧
      ∀ t, r.build = .ok t → ∀ start,
        1970 ≤ (Zone.utc.localTime start).date.year ∧
          (Zone.utc.localTime start).date.year ≤ 2100 →
        ∃ first, IsLeast (Cron.matchesAfter Zone.utc start r.Shows) first ∧
          ∀ n, t.fires start n = .ok ((List.range n).filterMap (r.occurrence first)) := by
  refine ⟨exists_build_iff r, build_of_not_inRange, fun t ht start hyear => ?_⟩
  have hrange : r.InRange := (exists_build_iff r).1 ⟨t, ht⟩
  obtain ⟨t', s, ht', rfl, hs, hyears, hallowed⟩ := exists_schedule hrange
  obtain rfl := Except.ok.inj (ht.symm.trans ht')
  have h₀ := le_year_utc_iff.1 hyear.1
  have h₁ := year_utc_le_iff.1 hyear.2
  have hlt : (r.phase : Int) < r.period := Int.ofNat_lt.2 (phase_lt hrange)
  obtain ⟨w, hw, hle⟩ :=
    exists_isLeast_of_progression (Int.natCast_nonneg r.phase) hlt start.second
  have hperiod : 0 < r.period ∧ r.period ≤ 604800 := by cases r <;> simp [period]
  have hend : endOfCalendar = 4133980800 := rfl
  have hpositive := hw.1.1
  obtain ⟨first, hfirst⟩ : ∃ i, Instant.ofSecond? w = some i :=
    exists_ofSecond? (by omega) (by omega)
  obtain ⟨hsecond, hfraction⟩ := Instant.second_of_ofSecond? hfirst
  have hmem (i : Instant) : i ∈ Cron.matchesAfter Zone.utc start r.Shows ↔
      i.fraction = 0 ∧ start.second < i.second ∧ i.second % r.period = r.phase :=
    mem_matchesAfter_progression fun l => shows_iff hrange
  refine ⟨first, ⟨(hmem first).2 ⟨hfraction, hsecond ▸ hw.1⟩, fun j hj => ?_⟩, ?_⟩
  · rw [Instant.le_iff_second_le hfraction, hsecond]
    exact hw.2 ((hmem j).1 hj).2
  · refine Timer.fires_of_upcoming fun k => ?_
    rw [occurrence_eq r hfraction, hsecond]
    exact upcoming_of_progression rfl hs hyears hallowed (fun l => shows_iff hrange)
      (by omega) h₀ h₁ hw k

/-- A weekly timer that is started a nanosecond after its time on a 29 February. -/
theorem regular_timers_are_progressions_of_leap_day :
    let r : RegularTimer := .weekly .tuesday 23 59 59
    let start : Instant := ⟨951868799 * 1000000000 + 1, by decide, by decide⟩
    r.InRange ∧ (1970 ≤ (Zone.utc.localTime start).date.year ∧
        (Zone.utc.localTime start).date.year ≤ 2100) ∧
      ∃ t, r.build = .ok t ∧ ∃ first, IsLeast (Cron.matchesAfter Zone.utc start r.Shows) first ∧
        ∀ n, t.fires start n = .ok ((List.range n).filterMap (r.occurrence first)) := by
  intro r start
  obtain ⟨hbuilt, -, hfires⟩ := regular_timers_are_progressions r
  have hrange : r.InRange := by simp [r, InRange, settings, TimeField.greatest]
  have hyear : 1970 ≤ (Zone.utc.localTime start).date.year ∧
      (Zone.utc.localTime start).date.year ≤ 2100 := by decide
  obtain ⟨t, ht⟩ := hbuilt.2 hrange
  exact ⟨hrange, hyear, t, ht, hfires t ht start hyear⟩

/-- The hour is checked first. -/
example : (daily 24 60 0).build = .error (.outOfRange .hour 24) := rfl

end RegularTimer

end NodeSidecar
