/-
**Dates and day counts.**

The day count of a date and the date of a day count are inverse to each other on real dates, and the
day counts ascend with the dates.

The date of a day count is computed by a quotient that corrects the count for the leap days that it
has passed.  To see that it gives the year, a day count is written with the parts of a cycle of 400
years: centuries, blocks of four years, years of a block, and days of a year that begins in March.
The order of dates is read off the first days of months and years.

Main definitions:

* `Date.IsReal`, `TimeOfDay.IsReal` — a date and a time of day that a wall clock can show;
* `Date.Earlier` — the order of dates by year, month and day;
* `CycleParts` — the parts of a day count within a cycle.

Main results:

* `Date.toDays_ofDays`, `Date.ofDays_toDays` — dates and day counts correspond;
* `Date.toDays_lt` — the day counts of real dates ascend;
* `Date.year_le_iff`, `Date.le_year_iff` — the years as intervals of day counts;
* `LocalTime.toSeconds_ofSeconds` — the same correspondence with the time of day.
-/

import NodeSidecar.Time.Calendar
import Mathlib.Order.Nat

set_option autoImplicit false

namespace NodeSidecar

namespace Date

/-! ### Real dates -/

/-- A date that occurs in the calendar. -/
structure IsReal (d : Date) : Prop where
  month_pos : 1 ≤ d.month
  month_le : d.month ≤ 12
  day_pos : 1 ≤ d.day
  day_le : d.day ≤ daysInMonth d.year d.month

/-- Dates are ordered by year, then by month, then by day. -/
def Earlier (a b : Date) : Prop :=
  a.year < b.year ∨
    a.year = b.year ∧ (a.month < b.month ∨ a.month = b.month ∧ a.day < b.day)

theorem earlier_or_eq_or_earlier (a b : Date) : a.Earlier b ∨ a = b ∨ b.Earlier a := by
  obtain ⟨y, m, d⟩ := a
  obtain ⟨y', m', d'⟩ := b
  simp only [Earlier, Date.mk.injEq]
  omega

theorem isReal_first {y : Int} {m : Nat} (h₁ : 1 ≤ m) (h₂ : m ≤ 12) : IsReal ⟨y, m, 1⟩ where
  month_pos := h₁
  month_le := h₂
  day_pos := Nat.le_refl 1
  day_le := Nat.le_trans (Nat.le_add_left 1 27) (daysInMonth_pos y m)

/-! ### First days of months and years -/

/-- Within a month the day counts go with the days. -/
theorem toDays_eq_first (y : Int) (m d : Nat) :
    toDays ⟨y, m, d⟩ = toDays ⟨y, m, 1⟩ + d - 1 := by
  simp only [toDays]
  omega

/-- February is the month whose length depends on the year. -/
theorem daysInMonth_february (y : Int) :
    daysInMonth y 2 = 29 ∧ y % 4 = 0 ∧ (y % 100 ≠ 0 ∨ y % 400 = 0) ∨
      daysInMonth y 2 = 28 ∧ (y % 4 ≠ 0 ∨ y % 100 = 0 ∧ y % 400 ≠ 0) := by
  cases hleap : isLeapYear y with
  | true =>
      refine .inl ⟨by simp [daysInMonth, hleap], ?_⟩
      simpa [isLeapYear] using hleap
  | false =>
      refine .inr ⟨by simp [daysInMonth, hleap], ?_⟩
      by_cases h4 : y % 4 = 0
      · refine .inr ?_
        simpa [isLeapYear, h4] using hleap
      · exact .inl h4

/-- A month begins on the day after the last one of the month before it. -/
theorem toDays_next_month {y : Int} {m : Nat} (h₁ : 1 ≤ m) (h₂ : m ≤ 11) :
    toDays ⟨y, m + 1, 1⟩ = toDays ⟨y, m, 1⟩ + daysInMonth y m := by
  have hm : m = 1 ∨ m = 2 ∨ m = 3 ∨ m = 4 ∨ m = 5 ∨ m = 6 ∨ m = 7 ∨ m = 8 ∨ m = 9 ∨ m = 10 ∨
      m = 11 := by
    omega
  rcases hm with rfl | rfl | rfl | rfl | rfl | rfl | rfl | rfl | rfl | rfl | rfl
  case inr.inl =>
    -- the count of years changes after February, and with it the count of leap days
    have hlength := daysInMonth_february y
    simp only [toDays]
    omega
  all_goals
    simp only [toDays, daysInMonth]
    omega

/-- A year begins on the day after the last of December. -/
theorem toDays_next_year (y : Int) : toDays ⟨y + 1, 1, 1⟩ = toDays ⟨y, 12, 1⟩ + 31 := by
  simp only [toDays]
  omega

theorem toDays_month_mono {y : Int} {m m' : Nat} (h₁ : 1 ≤ m) (h : m ≤ m') (h₂ : m' ≤ 12) :
    toDays ⟨y, m, 1⟩ ≤ toDays ⟨y, m', 1⟩ := by
  induction m', h using Nat.le_induction with
  | base => exact Int.le_refl _
  | succ k hk ih =>
      have hstep := toDays_next_month (y := y) (m := k) (by omega) (by omega)
      have := ih (by omega)
      omega

theorem toDays_year_mono {y y' : Int} (h : y ≤ y') : toDays ⟨y, 1, 1⟩ ≤ toDays ⟨y', 1, 1⟩ := by
  simp only [toDays]
  omega

/-- A real date lies in its year. -/
theorem IsReal.in_year {d : Date} (h : d.IsReal) :
    toDays ⟨d.year, 1, 1⟩ ≤ d.toDays ∧ d.toDays < toDays ⟨d.year + 1, 1, 1⟩ := by
  obtain ⟨y, m, d⟩ := d
  obtain ⟨h₁, h₂, h₃, h₄⟩ := h
  have hfirst := toDays_month_mono (y := y) (Nat.le_refl 1) h₁ h₂
  have hday := toDays_eq_first y m d
  refine ⟨by dsimp only at *; omega, ?_⟩
  rcases Nat.lt_or_eq_of_le h₂ with hlt | rfl
  · have hnext := toDays_next_month (y := y) h₁ (Nat.le_of_lt_succ hlt)
    have hlast := toDays_month_mono (y := y) (m := m + 1) (by omega) hlt (Nat.le_refl 12)
    have hyear := toDays_next_year y
    dsimp only at *
    omega
  · have hyear := toDays_next_year y
    have hlength : daysInMonth y 12 = 31 := rfl
    dsimp only at *
    omega

/-- **The day counts of real dates ascend.** -/
theorem toDays_lt {a b : Date} (ha : a.IsReal) (hb : b.IsReal) (h : a.Earlier b) :
    a.toDays < b.toDays := by
  rcases h with hyear | ⟨hyear, hmonth | ⟨hmonth, hday⟩⟩
  · have hle := toDays_year_mono (Int.add_one_le_iff.2 hyear)
    have := ha.in_year.2
    have := hb.in_year.1
    omega
  · obtain ⟨y, m, d⟩ := a
    obtain ⟨y', m', d'⟩ := b
    obtain rfl : y = y' := hyear
    have hnext := toDays_next_month (y := y) ha.month_pos
      (Nat.le_of_lt_succ (Nat.lt_of_lt_of_le hmonth hb.month_le))
    have hle := toDays_month_mono (y := y) (Nat.le_add_left 1 m) hmonth hb.month_le
    have hd := ha.day_le
    have hd' := hb.day_pos
    have ha' := toDays_eq_first y m d
    have hb' := toDays_eq_first y m' d'
    dsimp only at *
    omega
  · obtain ⟨y, m, d⟩ := a
    obtain ⟨y', m', d'⟩ := b
    obtain rfl : y = y' := hyear
    obtain rfl : m = m' := hmonth
    have ha' := toDays_eq_first y m d
    have hb' := toDays_eq_first y m d'
    dsimp only at *
    omega

/-- A real date is known by its day count. -/
theorem toDays_inj {a b : Date} (ha : a.IsReal) (hb : b.IsReal) (h : a.toDays = b.toDays) :
    a = b := by
  rcases earlier_or_eq_or_earlier a b with hab | rfl | hba
  · exact absurd (toDays_lt ha hb hab) (by omega)
  · rfl
  · exact absurd (toDays_lt hb ha hba) (by omega)

end Date

/-! ### The parts of a cycle of 400 years -/

/-- The parts of a day count within a cycle that begins on 1 March: centuries, blocks of four years,
years of a block, and days of a year.  The day 365 is a leap day, and ends a block that ends no
century but the last. -/
structure CycleParts (century block year day : Int) : Prop where
  century_nonneg : 0 ≤ century
  century_le : century ≤ 3
  block_nonneg : 0 ≤ block
  block_le : block ≤ 24
  year_nonneg : 0 ≤ year
  year_le : year ≤ 3
  day_nonneg : 0 ≤ day
  day_le : day ≤ 365
  leap : day = 365 → year = 3 ∧ (block < 24 ∨ century = 3)

/-- Every day of a cycle has parts. -/
theorem exists_cycleParts {n : Int} (h₀ : 0 ≤ n) (h₁ : n < 146097) :
    ∃ c b y d, CycleParts c b y d ∧ n = 36524 * c + 1461 * b + 365 * y + d := by
  obtain ⟨c, r, hc₀, hc₃, hr₀, hr, hn⟩ : ∃ c r : Int, 0 ≤ c ∧ c ≤ 3 ∧ 0 ≤ r ∧
      (r < 36524 ∨ c = 3 ∧ r = 36524) ∧ n = 36524 * c + r := by
    -- the last century is a day longer, so the quotient would reach 4 on that day
    refine ⟨min (n / 36524) 3, n - 36524 * min (n / 36524) 3, ?_⟩
    omega
  obtain ⟨y, d, hy₀, hy₃, hd₀, hd, hs⟩ : ∃ y d : Int, 0 ≤ y ∧ y ≤ 3 ∧ 0 ≤ d ∧
      (d < 365 ∨ y = 3 ∧ d = 365) ∧ r % 1461 = 365 * y + d := by
    refine ⟨min (r % 1461 / 365) 3, r % 1461 - 365 * min (r % 1461 / 365) 3, ?_⟩
    omega
  refine ⟨c, r / 1461, y, d, ?_, by omega⟩
  constructor <;> omega

/-- **The corrected quotient is the year.** -/
theorem CycleParts.year_eq {c b y d n : Int} (h : CycleParts c b y d)
    (hn : n = 36524 * c + 1461 * b + 365 * y + d) :
    (n - n / 1460 + n / 36524 - n / 146096) / 365 = 100 * c + 4 * b + y := by
  obtain ⟨hc₀, hc₃, hb₀, hb, hy₀, hy₃, hd₀, hd, hleap⟩ := h
  -- the blocks passed are counted one too many at most, and then a day of the year has passed
  have hblocks : n / 1460 = 25 * c + b ∨ n / 1460 = 25 * c + b + 1 ∧ 1 ≤ d := by omega
  have hcenturies : n / 36524 = c ∧ n / 146096 = 0 ∨ n / 36524 = 4 ∧ n / 146096 = 1 ∧ c = 3 := by
    omega
  by_cases hday : d = 365
  · have hover : n / 1460 = 25 * c + b + 1 := by
      have := (hleap hday).1
      omega
    omega
  · omega

/-- The days of the years that have passed in a cycle and in all cycles before it. -/
theorem CycleParts.passed_eq {c b y d : Int} (h : CycleParts c b y d) (era : Int) :
    365 * (100 * c + 4 * b + y + era * 400) + (100 * c + 4 * b + y + era * 400) / 4 -
        (100 * c + 4 * b + y + era * 400) / 100 + (100 * c + 4 * b + y + era * 400) / 400 =
      146097 * era + (36524 * c + 1461 * b + 365 * y) := by
  obtain ⟨hc₀, hc₃, hb₀, hb, hy₀, hy₃, -⟩ := h
  omega

theorem CycleParts.range {c b y d : Int} (h : CycleParts c b y d) :
    0 ≤ 36524 * c + 1461 * b + 365 * y + d ∧ 36524 * c + 1461 * b + 365 * y + d < 146097 := by
  obtain ⟨hc₀, hc₃, hb₀, hb, hy₀, hy₃, hd₀, hd, hleap⟩ := h
  omega

namespace Date

/-- The date of a day count whose parts are known; `mp` counts the months from March. -/
theorem ofDays_of_parts {n era c b y d : Int} (h : CycleParts c b y d)
    (hn : n + 719468 = 146097 * era + (36524 * c + 1461 * b + 365 * y + d)) :
    ofDays n =
      let mp := (5 * d + 2) / 153
      let month := if mp < 10 then mp + 3 else mp - 9
      ⟨100 * c + 4 * b + y + era * 400 + (if month ≤ 2 then 1 else 0), month.toNat,
        (d - (153 * mp + 2) / 5 + 1).toNat⟩ := by
  obtain ⟨hlow, hhigh⟩ := h.range
  have hera : (n + 719468) / 146097 = era := by omega
  have hdoe : (n + 719468) % 146097 = 36524 * c + 1461 * b + 365 * y + d := by omega
  have hpassed : 365 * (100 * c + 4 * b + y) + (100 * c + 4 * b + y) / 4 -
      (100 * c + 4 * b + y) / 100 = 36524 * c + 1461 * b + 365 * y := by
    obtain ⟨hc₀, hc₃, hb₀, hb, hy₀, hy₃, -⟩ := h
    omega
  have hdoy : 36524 * c + 1461 * b + 365 * y + d - (36524 * c + 1461 * b + 365 * y) = d := by
    omega
  simp only [ofDays, hera, hdoe, h.year_eq rfl, hpassed, hdoy]

/-- The parts of a day count and its cycle. -/
theorem exists_parts (n : Int) : ∃ era c b y d, CycleParts c b y d ∧
    n + 719468 = 146097 * era + (36524 * c + 1461 * b + 365 * y + d) := by
  obtain ⟨c, b, y, d, hparts, hd⟩ := exists_cycleParts (n := (n + 719468) % 146097)
    (by omega) (by omega)
  exact ⟨(n + 719468) / 146097, c, b, y, d, hparts, by omega⟩

/-- **The day count of the date of a day count.** -/
@[simp] theorem toDays_ofDays (n : Int) : (ofDays n).toDays = n := by
  obtain ⟨era, c, b, y, d, hparts, hn⟩ := exists_parts n
  have hpassed := hparts.passed_eq era
  have hd₀ := hparts.day_nonneg
  have hd₁ := hparts.day_le
  rw [ofDays_of_parts hparts hn]
  generalize hY : 100 * c + 4 * b + y + era * 400 = Y at hpassed ⊢
  generalize hmp : (5 * d + 2) / 153 = mp
  have hmp₀ : 0 ≤ mp := by omega
  have hmp₁ : mp ≤ 11 := by omega
  have hday : 0 ≤ d - (153 * mp + 2) / 5 := by omega
  clear hY
  simp only [toDays]
  -- January and February are the last months of a year that begins in March
  by_cases hlate : mp < 10
  · have hmonth : ((mp + 3).toNat + 9) % 12 = mp.toNat := by omega
    have hnot : ¬ mp + 3 ≤ 2 := by omega
    have hnot' : ¬ (mp + 3).toNat ≤ 2 := by omega
    simp only [hlate, ↓reduceIte, hmonth, hnot, hnot', Int.add_zero, hpassed]
    omega
  · have hmonth : ((mp - 9).toNat + 9) % 12 = mp.toNat := by omega
    have hnot : mp - 9 ≤ 2 := by omega
    have hnot' : (mp - 9).toNat ≤ 2 := by omega
    simp only [hlate, ↓reduceIte, hmonth, hnot, hnot', Int.add_sub_cancel, hpassed]
    omega

/-- A year that has a last day of February to count has it in the calendar too. -/
theorem day_le_of_february {c b y d : Int} (h : CycleParts c b y d) (era : Int) :
    (d - 337 + 1).toNat ≤ daysInMonth (100 * c + 4 * b + y + era * 400 + 1) 2 := by
  obtain ⟨hc₀, hc₃, hb₀, hb, hy₀, hy₃, hd₀, hd, hleap⟩ := h
  rcases daysInMonth_february (100 * c + 4 * b + y + era * 400 + 1) with
    ⟨hlength, -⟩ | ⟨hlength, hyear⟩
  · omega
  · have hday : d ≠ 365 := by
      intro hday
      have hlast := hleap hday
      omega
    omega

/-- **The date of a day count is real.** -/
theorem isReal_ofDays (n : Int) : (ofDays n).IsReal := by
  obtain ⟨era, c, b, y, d, hparts, hn⟩ := exists_parts n
  have hd₀ := hparts.day_nonneg
  have hd₁ := hparts.day_le
  have hfebruary := day_le_of_february hparts era
  rw [ofDays_of_parts hparts hn]
  generalize 100 * c + 4 * b + y + era * 400 = Y at hfebruary ⊢
  generalize hmp : (5 * d + 2) / 153 = mp
  have hday : 1 ≤ (d - (153 * mp + 2) / 5 + 1).toNat := by omega
  have hcases : mp = 0 ∨ mp = 1 ∨ mp = 2 ∨ mp = 3 ∨ mp = 4 ∨ mp = 5 ∨ mp = 6 ∨ mp = 7 ∨ mp = 8 ∨
      mp = 9 ∨ mp = 10 ∨ mp = 11 := by
    omega
  rcases hcases with rfl | rfl | rfl | rfl | rfl | rfl | rfl | rfl | rfl | rfl | rfl | rfl
  case inr.inr.inr.inr.inr.inr.inr.inr.inr.inr.inr =>
    exact ⟨by simp, by simp, hday, hfebruary⟩
  all_goals
    refine ⟨by simp, by simp, hday, ?_⟩
    simp [daysInMonth]
    omega

/-- **The date of the day count of a real date.** -/
theorem ofDays_toDays {d : Date} (h : d.IsReal) : ofDays d.toDays = d :=
  toDays_inj (isReal_ofDays _) h (toDays_ofDays _)

theorem ofDays_eq_iff {d : Date} (h : d.IsReal) {n : Int} : ofDays n = d ↔ n = d.toDays := by
  constructor
  · rintro rfl
    exact (toDays_ofDays n).symm
  · rintro rfl
    exact ofDays_toDays h

/-- The days of a year and of those before it. -/
theorem year_le_iff {n y : Int} : (ofDays n).year ≤ y ↔ n < toDays ⟨y + 1, 1, 1⟩ := by
  have hin := (isReal_ofDays n).in_year
  rw [toDays_ofDays] at hin
  constructor
  · intro h
    exact Int.lt_of_lt_of_le hin.2 (toDays_year_mono (Int.add_le_add_right h 1))
  · intro h
    by_contra hlt
    have hle := toDays_year_mono (Int.add_one_le_iff.2 (Int.not_le.1 hlt))
    omega

/-- The days of a year and of those after it. -/
theorem le_year_iff {n y : Int} : y ≤ (ofDays n).year ↔ toDays ⟨y, 1, 1⟩ ≤ n := by
  have h := year_le_iff (n := n) (y := y - 1)
  rw [Int.sub_add_cancel] at h
  omega

end Date

/-! ### Times of day -/

namespace TimeOfDay

/-- A time of day that a wall clock can show. -/
structure IsReal (t : TimeOfDay) : Prop where
  hour_lt : t.hour < 24
  minute_lt : t.minute < 60
  second_lt : t.second < 60

theorem IsReal.toSeconds_lt {t : TimeOfDay} (h : t.IsReal) : t.toSeconds < 86400 := by
  obtain ⟨h₁, h₂, h₃⟩ := h
  simp only [toSeconds]
  omega

theorem isReal_ofSeconds {n : Nat} (h : n < 86400) : (ofSeconds n).IsReal where
  hour_lt := by simp only [ofSeconds]; omega
  minute_lt := Nat.mod_lt _ (by decide)
  second_lt := Nat.mod_lt _ (by decide)

theorem ofSeconds_toSeconds {t : TimeOfDay} (h : t.IsReal) : ofSeconds t.toSeconds = t := by
  obtain ⟨hour, minute, second⟩ := t
  obtain ⟨h₁, h₂, h₃⟩ := h
  simp only [ofSeconds, toSeconds, TimeOfDay.mk.injEq]
  dsimp only at h₁ h₂ h₃
  omega

end TimeOfDay

namespace LocalTime

/-! ### Wall clock times -/

@[simp] theorem date_ofSeconds (n : Int) : (ofSeconds n).date = Date.ofDays (n / 86400) := rfl

@[simp] theorem time_ofSeconds (n : Int) :
    (ofSeconds n).time = TimeOfDay.ofSeconds (n % 86400).toNat := rfl

theorem isReal_time (n : Int) : (ofSeconds n).time.IsReal :=
  TimeOfDay.isReal_ofSeconds (by omega)

/-- **A count of seconds is that of its wall clock time.** -/
@[simp] theorem toSeconds_ofSeconds (n : Int) : (ofSeconds n).toSeconds = n := by
  simp only [toSeconds, date_ofSeconds, time_ofSeconds, Date.toDays_ofDays,
    TimeOfDay.toSeconds_ofSeconds]
  omega

end LocalTime

end NodeSidecar
