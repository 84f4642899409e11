/-
**Timers that fire in a progression.**

A schedule in UTC may allow just the seconds that leave a fixed remainder on division by a period.
Its next instant is then the next second of that progression, and behind the first one each is a
period away from the one before it, up to the end of 2100.

Main definition: `withinCalendar` — the instant of a second up to the end of 2100.

Main results:

* `next_of_progression` — the next instant of such a schedule;
* `upcoming_of_progression` — **the instants of a timer with such a schedule**.
-/

import NodeSidecar.Proofs.Cron.Next
import NodeSidecar.Proofs.Timer.Upcoming

set_option autoImplicit false

namespace NodeSidecar

/-! ### The instants up to the end of 2100 -/

/-- The instant at the start of a second, unless it lies beyond the end of 2100 in UTC. -/
def withinCalendar (second : Int) : Option Instant :=
  (Instant.ofSecond? second).filter fun i => decide ((Zone.utc.localTime i).date.year ≤ 2100)

/-- The second at which the year 2101 begins in UTC. -/
def endOfCalendar : Int := Date.toDays ⟨2101, 1, 1⟩ * 86400

theorem wallClock_utc (u : Int) : Zone.utc.wallClock u = u := Int.add_zero u

theorem year_utc_le_iff {i : Instant} :
    (Zone.utc.localTime i).date.year ≤ 2100 ↔ i.second < endOfCalendar := by
  rw [Zone.localTime, wallClock_utc, LocalTime.date_ofSeconds, Date.year_le_iff]
  show i.second / 86400 < 47847 ↔ i.second < 47847 * 86400
  omega

theorem le_year_utc_iff {i : Instant} :
    1970 ≤ (Zone.utc.localTime i).date.year ↔ 0 ≤ i.second := by
  rw [Zone.localTime, wallClock_utc, LocalTime.date_ofSeconds, Date.le_year_iff]
  show 0 ≤ i.second / 86400 ↔ 0 ≤ i.second
  omega

/-- The seconds from 1970 to shortly after the calendar are representable. -/
theorem exists_ofSecond? {second : Int} (h₀ : 0 ≤ second) (h : second < 2 * endOfCalendar) :
    ∃ i, Instant.ofSecond? second = some i := by
  have hend : endOfCalendar = 4133980800 := rfl
  refine ⟨_, dif_pos ⟨?_, ?_⟩⟩
  · simp only [Instant.minNanos]
    omega
  · omega

theorem withinCalendar_of_lt {second : Int} (h₀ : 0 ≤ second) (h : second < endOfCalendar) :
    ∃ i, withinCalendar second = some i ∧ i.second = second ∧ i.fraction = 0 := by
  obtain ⟨i, hi⟩ := exists_ofSecond? h₀ (by omega)
  obtain ⟨hsecond, hfraction⟩ := Instant.second_of_ofSecond? hi
  refine ⟨i, ?_, hsecond, hfraction⟩
  rw [withinCalendar, hi, Option.filter_some, if_pos]
  exact decide_eq_true (year_utc_le_iff.2 (hsecond ▸ h))

theorem withinCalendar_of_le {second : Int} (h : endOfCalendar ≤ second) :
    withinCalendar second = none := by
  rw [withinCalendar]
  cases hi : Instant.ofSecond? second with
  | none => rfl
  | some i =>
      have hsecond := (Instant.second_of_ofSecond? hi).1
      rw [Option.filter_some, if_neg]
      rw [decide_eq_true_eq, year_utc_le_iff]
      omega

/-! ### Progressions -/

/-- Two seconds of a progression are at least a period apart. -/
theorem add_le_of_progression {period u v : Int} (h : u % period = v % period) (hlt : u < v) :
    u + period ≤ v := by
  have hdvd : period ∣ v - u :=
    Int.dvd_of_emod_eq_zero (Int.emod_eq_emod_iff_emod_sub_eq_zero.1 h.symm)
  have hle := Int.le_of_dvd (by omega) hdvd
  omega

/-- Behind a second of a progression the next one is a period away. -/
theorem isLeast_of_progression {period phase second : Int} (hperiod : 0 < period)
    (h : second % period = phase) :
    IsLeast {v | second < v ∧ v % period = phase} (second + period) := by
  refine ⟨⟨by omega, by rw [Int.add_emod_right, h]⟩, ?_⟩
  rintro v ⟨hlt, hv⟩
  exact add_le_of_progression (h.trans hv.symm) hlt

/-- Within a period after any second there is one of the progression. -/
theorem exists_isLeast_of_progression {period phase : Int} (hphase : 0 ≤ phase)
    (hlt : phase < period) (second : Int) :
    ∃ w, IsLeast {v | second < v ∧ v % period = phase} w ∧ w ≤ second + period := by
  have hperiod : 0 < period := by omega
  have h₀ := Int.emod_nonneg (phase - (second + 1)) (Int.ne_of_gt hperiod)
  have h₁ := Int.emod_lt_of_pos (phase - (second + 1)) hperiod
  have hmod : (second + 1 + (phase - (second + 1)) % period) % period = phase := by
    have hsum : second + 1 + (phase - (second + 1)) = phase := by omega
    rw [Int.add_emod_emod, hsum, Int.emod_eq_of_lt hphase hlt]
  refine ⟨second + 1 + (phase - (second + 1)) % period, ⟨⟨by omega, hmod⟩, ?_⟩, by omega⟩
  rintro v ⟨hv, hv'⟩
  -- an earlier one would be a whole period earlier, and so not after `second`
  by_contra hnot
  have := add_le_of_progression (hv'.trans hmod.symm) (Int.not_le.1 hnot)
  omega

theorem exists_shift_second {start : Instant} (h₀ : 0 ≤ start.second)
    (h₁ : start.second < 2 * endOfCalendar) : ∃ base, start.shift? nanosPerSecond = some base := by
  have hend : endOfCalendar = 4133980800 := rfl
  simp only [Instant.second] at h₀ h₁
  refine ⟨_, dif_pos ⟨?_, ?_⟩⟩
  · simp only [Instant.minNanos, nanosPerSecond]
    omega
  · simp only [nanosPerSecond]
    omega

section Progression

variable {s : Cron.Schedule} {allowed : LocalTime → Prop} {period phase : Int} {start : Instant}

/-- The instants after a start at which the seconds of a progression begin. -/
theorem mem_matchesAfter_progression
    (hphase : ∀ l, allowed (.ofSeconds l) ↔ l % period = phase) {i : Instant} :
    i ∈ Cron.matchesAfter Zone.utc start allowed ↔
      i.fraction = 0 ∧ start.second < i.second ∧ i.second % period = phase := by
  rw [← hphase]
  constructor
  · rintro ⟨hlt, hfraction, hi⟩
    refine ⟨hfraction, (Instant.lt_iff_second_lt hfraction).1 hlt, ?_⟩
    rwa [Zone.localTime, wallClock_utc] at hi
  · rintro ⟨hfraction, hlt, hi⟩
    refine ⟨(Instant.lt_iff_second_lt hfraction).2 hlt, hfraction, ?_⟩
    rwa [Zone.localTime, wallClock_utc]

/-- **The next instant of a schedule that allows the seconds of a progression** is the next one of
the progression. -/
theorem next_of_progression (hs : s.IsProper) (hyears : s.years = Cron.Unit.year.ordinals)
    (hallowed : ∀ l, s.AllowsIn Cron.positions (.ofSeconds l) ↔ allowed (.ofSeconds l))
    (hphase : ∀ l, allowed (.ofSeconds l) ↔ l % period = phase)
    (h₀ : 0 ≤ start.second) (h₁ : start.second < endOfCalendar) {w : Int}
    (hw : IsLeast {v | start.second < v ∧ v % period = phase} w) :
    s.next Zone.utc start = .ok (withinCalendar w) := by
  have hzone : Zone.utc.ConstantSince1970 0 := Zone.constantSince1970_fixed "UTC" 0
  obtain ⟨base, hbase⟩ := exists_shift_second h₀ (by omega)
  have hsecond := Instant.second_of_shift_second hbase
  have hfloor : 0 ≤ Zone.utc.wallClock base.second := by
    rw [wallClock_utc]
    omega
  have hyear : (Zone.utc.localTime base).date.year.toNat ∈ s.years ∨
      ∀ y ∈ s.years, (y : Int) < (Zone.utc.localTime base).date.year := by
    have hge : 1970 ≤ (Zone.utc.localTime base).date.year := le_year_utc_iff.2 (by omega)
    rw [hyears]
    by_cases hle : (Zone.utc.localTime base).date.year ≤ 2100
    · exact .inl (Cron.Unit.mem_between.2
        ⟨by simp only [Cron.Unit.least]; omega, by simp only [Cron.Unit.greatest]; omega⟩)
    · refine .inr fun y hy => ?_
      have := (Cron.Unit.mem_between.1 hy).2
      simp only [Cron.Unit.greatest] at this
      omega
  obtain ⟨next?, hnext, hfirst⟩ := Cron.Schedule.next_isFirstOf hs hzone hbase hfloor hyear
  have hmem (i : Instant) : i ∈ Cron.matchesAfter Zone.utc start s.Allows ↔
      (i.fraction = 0 ∧ start.second < i.second ∧ i.second % period = phase) ∧
        i.second < endOfCalendar := by
    rw [Cron.mem_matchesAfter_iff hallowed hyears hzone hbase hfloor,
      mem_matchesAfter_progression hphase, year_utc_le_iff]
  rw [hnext]
  congr 1
  -- `w` is the first match, unless it lies beyond the calendar, and then there is none
  by_cases hlt : w < endOfCalendar
  · obtain ⟨j, hj, hjw, hfraction⟩ := withinCalendar_of_lt (by have := hw.1.1; omega) hlt
    have hjmem := (hmem j).2 ⟨⟨hfraction, hjw ▸ hw.1.1, hjw ▸ hw.1.2⟩, hjw ▸ hlt⟩
    rw [hj]
    cases next? with
    | none => exact absurd hjmem (hfirst j)
    | some i =>
        obtain ⟨⟨hi, hstart, hphase⟩, -⟩ := (hmem i).1 hfirst.1
        have hle := (Instant.le_iff_second_le hi).1 (hfirst.2 hjmem)
        have hge := hw.2 ⟨hstart, hphase⟩
        exact congrArg some (Instant.eq_of_second_eq hi hfraction (by omega))
  · rw [withinCalendar_of_le (Int.not_lt.1 hlt)]
    cases next? with
    | none => rfl
    | some i =>
        obtain ⟨⟨-, hi⟩, hend⟩ := (hmem i).1 hfirst.1
        have hge := hw.2 hi
        omega

/-- **The instants of a timer whose schedule allows the seconds of a progression.** -/
theorem upcoming_of_progression {c : CronTimer} (hzone : c.zone = Zone.utc)
    (hs : c.schedule.IsProper) (hyears : c.schedule.years = Cron.Unit.year.ordinals)
    (hallowed : ∀ l, c.schedule.AllowsIn Cron.positions (.ofSeconds l) ↔ allowed (.ofSeconds l))
    (hphase : ∀ l, allowed (.ofSeconds l) ↔ l % period = phase) (hperiod : 0 < period)
    (h₀ : 0 ≤ start.second) (h₁ : start.second < endOfCalendar) {w : Int}
    (hw : IsLeast {v | start.second < v ∧ v % period = phase} w) (k : Nat) :
    (Timer.cron c).upcoming start k = .ok (withinCalendar (w + k * period)) := by
  have hnext {from' : Instant} (h₀ : 0 ≤ from'.second) (h₁ : from'.second < endOfCalendar) {v : Int}
      (hv : IsLeast {v | from'.second < v ∧ v % period = phase} v) :
      (Timer.cron c).nextAfter from' = .ok (withinCalendar v) := by
    rw [Timer.nextAfter, hzone]
    exact next_of_progression hs hyears hallowed hphase h₀ h₁ hv
  induction k with
  | zero =>
      rw [Int.natCast_zero, Int.zero_mul, Int.add_zero]
      exact hnext h₀ h₁ hw
  | succ k ih =>
      have hnonneg : 0 ≤ (k : Int) * period := Int.mul_nonneg (Int.natCast_nonneg k) hperiod.le
      have hsum : w + ((k + 1 : Nat) : Int) * period = w + k * period + period := by
        rw [Int.natCast_succ, Int.add_mul, Int.one_mul, Int.add_assoc]
      have hmod : (w + k * period) % period = phase := by
        rw [Int.add_mul_emod_self_right]
        exact hw.1.2
      have hstart := hw.1.1
      rw [hsum]
      -- once the calendar has ended, it has ended for all later instants
      by_cases hlt : w + k * period < endOfCalendar
      · obtain ⟨i, hi, hsecond, -⟩ := withinCalendar_of_lt (by omega) hlt
        rw [hi] at ih
        rw [Timer.upcoming_succ_of_some ih, ← hsecond]
        exact hnext (by omega) (by omega) (isLeast_of_progression hperiod (hsecond ▸ hmod))
      · rw [withinCalendar_of_le (Int.not_lt.1 hlt)] at ih
        rw [Timer.upcoming_succ_of_none ih, withinCalendar_of_le (by omega)]

end Progression

end NodeSidecar
