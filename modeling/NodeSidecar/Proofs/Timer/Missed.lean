/-
**How many fires are passed over.**

Catching up with a clock counts what it passes over, one by one.  A counter of 32 bits is enough for
every calendar timer: the wall clock shows a later time at each of its fires, and each of these
times lies in the years from 1970 to 2100, which have fewer than 2 ^ 32 seconds.

It is not enough for every interval timer.  Such a timer fires after each period, and what is passed
over is the number of periods that end in the time between the due fire and the clock.  So the
counter is exceeded as soon as that time is 2 ^ 32 periods long, however short the period is: after
seven weeks for a period of a millisecond, and after little more than four seconds for the shortest
period of all.

Main definition: `Misses` — the number of fires that are counted as passed over.

Main results:

* `exists_misses`, `Misses.unique`, `Misses.of_catchUp` — that number exists, there is only one, and
  `catchUp` counts it;
* `Cron.Schedule.wallClock_of_next` — a schedule goes forward on the wall clock, in the years from
  1970 to 2100;
* `Misses.lt_of_cron` — for a calendar timer the number is less than 2 ^ 32;
* `Misses.lt_iff_of_interval` — for an interval timer it is the number of periods that have ended;
* `Timer.missed_fires_fit_iff` — **when a counter of 32 bits is enough**.
-/

import NodeSidecar.Proofs.Timer.Intervals
import NodeSidecar.Proofs.Timer.Progress

set_option autoImplicit false

namespace NodeSidecar

variable {t : Timer} {now : Instant} {at? : Option Instant} {n m : Nat}

/-! ### Counting what is passed over -/

/-- **The number of fires that catching up with a clock counts as passed over.**  A fire is counted
before the next one is asked for, hence also when the timer breaks down there. -/
inductive Misses (t : Timer) (now : Instant) : Option Instant → Nat → Prop
  | ended : Misses t now none 0
  | ahead {i : Instant} (h : now < i) : Misses t now (some i) 0
  | brokenDown {i : Instant} {b : Cron.Breakdown} (h : ¬ now < i)
      (hnext : t.nextAfter i = .error b) : Misses t now (some i) 1
  | passed {i : Instant} {next? : Option Instant} {n : Nat} (h : ¬ now < i)
      (hnext : t.nextAfter i = .ok next?) (hrest : Misses t now next? n) :
      Misses t now (some i) (n + 1)

/-- Along a timer that moves forward only so many fires are passed over. -/
theorem exists_misses (inc : t.Increasing) (now : Instant) (at? : Option Instant) :
    ∃ n, Misses t now at? n := by
  fun_induction catchUp t now at? 0 with
  | case1 => exact ⟨0, .ended⟩
  | case2 _ i h => exact ⟨0, .ahead h⟩
  | case3 _ i h b hnext => exact ⟨1, .brokenDown h hnext⟩
  | case4 _ i h hnext => exact ⟨1, .passed h hnext .ended⟩
  | case5 _ i h j hnext _ ih =>
      obtain ⟨n, hn⟩ := ih
      exact ⟨n + 1, .passed h hnext hn⟩
  | case6 _ i h j hnext hnot => exact absurd (inc i j hnext) hnot

namespace Misses

theorem unique (h : Misses t now at? n) (h' : Misses t now at? m) : m = n := by
  induction h generalizing m with
  | ended => cases h' with | ended => rfl
  | ahead hahead =>
      cases h' with
      | ahead => rfl
      | brokenDown hnot => exact absurd hahead hnot
      | passed hnot => exact absurd hahead hnot
  | brokenDown hnot hnext =>
      cases h' with
      | ahead hahead => exact absurd hahead hnot
      | brokenDown => rfl
      | passed _ hnext' => cases hnext.symm.trans hnext'
  | passed hnot hnext _ ih =>
      cases h' with
      | ahead hahead => exact absurd hahead hnot
      | brokenDown _ hnext' => cases hnext.symm.trans hnext'
      | passed _ hnext' hrest' =>
          obtain rfl := Except.ok.inj (hnext.symm.trans hnext')
          rw [ih hrest']

/-- What `catchUp` counts, on top of what had been counted before. -/
theorem of_catchUp (inc : t.Increasing) {next : Option Instant} {missed missed' : Nat}
    (h : Misses t now at? n) (hc : catchUp t now at? missed = .ok (next, missed')) :
    missed' = missed + n := by
  fun_induction catchUp t now at? missed generalizing n with
  | case1 missed =>
      cases h
      cases hc
      rfl
  | case2 missed i hahead =>
      cases hc
      rw [(Misses.ahead hahead).unique h]
      rfl
  | case3 => cases hc
  | case4 missed i hnot hnext =>
      cases hc
      rw [(Misses.passed hnot hnext .ended).unique h]
  | case5 missed i hnot j hnext _ ih =>
      obtain ⟨rest, hrest⟩ := exists_misses inc now (some j)
      obtain rfl := (Misses.passed hnot hnext hrest).unique h
      rw [ih hrest hc]
      omega
  | case6 missed i hnot j hnext hlater => exact absurd (inc i j hnext) hlater

end Misses

/-! ### Calendar timers -/

/-- The first second of 2101 on the wall clock. -/
def Cron.endOfYears : Int := Date.toDays ⟨2101, 1, 1⟩ * 86400

namespace Cron

variable {s : Schedule} {z : Zone} {start i : Instant}

/-- **A schedule goes forward on the wall clock**, in the years from 1970 to 2100. -/
theorem Schedule.wallClock_of_next (hs : s.IsProper) (h : s.next z start = .ok (some i)) :
    z.wallClock start.second < z.wallClock i.second ∧
      0 ≤ z.wallClock i.second ∧ z.wallClock i.second < endOfYears := by
  have hlt := lt_of_next hs h
  obtain ⟨base, -, ⟨-, hnone⟩ | ⟨u, hsearch, hu⟩⟩ := next_eq_ok.1 h
  · cases hnone
  obtain ⟨hsecond, hfraction⟩ := Instant.second_of_ofSecond? hu.symm
  obtain ⟨l, hunique, y, hy, hyear⟩ := exists_year_of_search hs (LocalTime.isReal_time _) hsearch
  have hl := Zone.wallClock_of_unique? hunique
  have hin := Unit.holds_iff.1 ((hs .year).2 y hy)
  have hfirst : 0 ≤ l / 86400 := by
    rw [show (0 : Int) = Date.toDays ⟨1970, 1, 1⟩ by decide, ← Date.le_year_iff,
      ← LocalTime.date_ofSeconds, hyear]
    exact Int.ofNat_le.2 hin.1
  have hlast : l / 86400 < Date.toDays ⟨2101, 1, 1⟩ := by
    rw [show (2101 : Int) = 2100 + 1 from rfl, ← Date.year_le_iff, ← LocalTime.date_ofSeconds,
      hyear]
    exact Int.ofNat_le.2 hin.2
  rw [hsecond, hl]
  refine ⟨?_, ?_, (Int.ediv_lt_iff_lt_mul (by decide)).1 hlast⟩
  · -- only the later second has to be the only one of its time
    rw [Zone.wallClock_lt_iff hunique, ← hsecond]
    exact (Instant.lt_iff_second_lt hfraction).1 hlt
  · omega

end Cron

namespace Misses

/-- What is passed over of a calendar timer, and the time that the wall clock has shown before. -/
theorem add_wallClock_le {c : CronTimer} (hs : c.schedule.IsProper) {i : Instant}
    (h : Misses (.cron c) now (some i) n) (hi : c.zone.wallClock i.second < Cron.endOfYears) :
    n + c.zone.wallClock i.second ≤ Cron.endOfYears := by
  generalize hat : some i = at? at h
  induction h generalizing i with
  | ended => cases hat
  | ahead => omega
  | brokenDown => cases hat; omega
  | @passed _ next? n _ hnext hrest ih =>
      cases hat
      cases next? with
      | none => cases hrest; omega
      | some j =>
          obtain ⟨hlt, -, hupper⟩ := Cron.Schedule.wallClock_of_next hs hnext
          have := ih hupper rfl
          omega

/-- **Of a calendar timer fewer than 2 ^ 32 fires are passed over.** -/
theorem lt_of_cron {c : CronTimer} (hs : c.schedule.IsProper) {scheduled : Instant}
    {next? : Option Instant} (hnext : (Timer.cron c).nextAfter scheduled = .ok next?)
    (h : Misses (.cron c) now next? n) : n < UInt32.size := by
  cases next? with
  | none => cases h; decide
  | some i =>
      obtain ⟨-, hlower, hupper⟩ := Cron.Schedule.wallClock_of_next hs hnext
      have hle := h.add_wallClock_le hs hupper
      have hend : Cron.endOfYears < UInt32.size := by decide
      omega

/-! ### Interval timers -/

/-- **Of an interval timer one fire is passed over for each period that has ended.** -/
theorem lt_iff_of_interval {iv : IntervalTimer} {first : Int} (hfirst : Instant.minNanos ≤ first)
    (h : Misses (.interval iv) now (Instant.ofNanos? first) n) (k : Nat) :
    k < n ↔ first + k * iv.period.nanos ≤ now.nanos := by
  have hupper := now.upper
  have hlater (first : Int) (k : Nat) : first ≤ first + k * iv.period.nanos :=
    Int.le_add_of_nonneg_right (Int.mul_nonneg (Int.natCast_nonneg _) (Int.natCast_nonneg _))
  -- the periods are counted from the instant that is looked at
  generalize hat : Instant.ofNanos? first = at? at h
  induction h generalizing first k with
  | ended =>
      -- the clock does not go on beyond the range either
      have hbeyond := Instant.maxNanos_lt_of_ofNanos?_none hat hfirst
      have hk := hlater first k
      simp only [Instant.maxNanos] at hbeyond
      omega
  | ahead hahead =>
      rw [Instant.lt_iff, Instant.nanos_of_ofNanos? hat] at hahead
      have hk := hlater first k
      omega
  | brokenDown _ hnext => cases hnext
  | @passed i next? _ hnot hnext _ ih =>
      have hi := Instant.nanos_of_ofNanos? hat
      rw [Instant.lt_iff, hi] at hnot
      cases k with
      | zero => simpa using hnot
      | succ k =>
          have hfollows : Instant.ofNanos? (first + iv.period.nanos) = next? := by
            rw [← hi]
            exact Except.ok.inj hnext
          have hrest := ih (by omega) k hfollows
          refine Nat.succ_lt_succ_iff.trans (hrest.trans ?_)
          rw [Int.natCast_succ, Int.add_mul, Int.one_mul]
          omega

end Misses

namespace Timer

/-! ### A counter of 32 bits -/

/-- **When a counter of 32 bits is enough.**  Whatever the due fire and the clock are, catching up
counts a number of fires as passed over.  It is less than 2 ^ 32 for every calendar timer, and for
an interval timer exactly when fewer than 2 ^ 32 periods lie between the due fire and the clock. -/
theorem missed_fires_fit_iff (ht : t.Built) {scheduled : Instant} {next? : Option Instant}
    (hnext : t.nextAfter scheduled = .ok next?) (now : Instant) :
    ∃ n, Misses t now next? n ∧ (∀ m, Misses t now next? m → m = n) ∧
      (∀ next missed, catchUp t now next? 0 = .ok (next, missed) → missed = n) ∧
      (n < UInt32.size ↔ ∀ period, t.period? = some period →
        now.nanos - scheduled.nanos < UInt32.size * period.nanos) := by
  obtain ⟨n, hn⟩ := exists_misses ht.increasing now next?
  refine ⟨n, hn, fun m hm => hn.unique hm, fun next missed hc => ?_, ?_⟩
  · rw [hn.of_catchUp ht.increasing hc, Nat.zero_add]
  cases ht with
  | ofPeriod period h =>
      obtain ⟨h₀, h₁, rfl⟩ := ofPeriod_eq_ok.1 h
      obtain rfl := Except.ok.inj hnext
      -- the counter is exceeded when its last value has been counted and one more fire has passed
      have hfirst : Instant.minNanos ≤ scheduled.nanos + period.nanos :=
        Int.le_trans scheduled.lower (Int.le_add_of_nonneg_right (Int.natCast_nonneg _))
      have hcount : 4294967295 < n ↔
          scheduled.nanos + period.nanos + 4294967295 * period.nanos ≤ now.nanos :=
        hn.lt_iff_of_interval hfirst 4294967295
      simp only [period?, Option.some.injEq, forall_eq', UInt32.size]
      omega
  | ofExpression expression z h =>
      obtain ⟨s, hs, rfl⟩ := exists_schedule_of_ofExpression h
      have hfits := hn.lt_of_cron (Cron.isProper_of_ofExpression hs) hnext
      exact iff_of_true hfits fun _ hperiod => nomatch hperiod

/-- A timer of a millisecond may be left alone for just under fifty days. -/
theorem missed_fires_fit_of_millisecond :
    let t : Timer := .interval ⟨⟨1000000⟩, by decide, by decide⟩
    let scheduled : Instant := ⟨0, by decide, by decide⟩
    let first : Instant := ⟨1000000, by decide, by decide⟩
    let now : Instant := ⟨4294967295999999, by decide, by decide⟩
    everyMillis 1 = .ok t ∧ t.nextAfter scheduled = .ok (some first) ∧
      ∃ n, Misses t now (some first) n ∧ n < UInt32.size := by
  intro t scheduled first now
  have ht : everyMillis 1 = .ok t := ofPeriod_eq_ok.2 ⟨by decide, by decide, rfl⟩
  have hnext : t.nextAfter scheduled = .ok (some first) := by decide
  obtain ⟨n, hn, -, -, hfits⟩ := missed_fires_fit_iff (.ofPeriod _ ht) hnext now
  refine ⟨ht, hnext, n, hn, hfits.2 fun period hperiod => ?_⟩
  cases hperiod
  decide

/-- **A counter of 32 bits is exceeded** when a timer of the shortest period is left alone for
2 ^ 32 nanoseconds, a little more than four seconds. -/
theorem missed_fires_exceed_counter :
    let iv : IntervalTimer := ⟨⟨1⟩, by decide, by decide⟩
    let scheduled : Instant := ⟨0, by decide, by decide⟩
    let first : Instant := ⟨1, by decide, by decide⟩
    let now : Instant := ⟨4294967296, by decide, by decide⟩
    ofPeriod ⟨1⟩ = .ok (.interval iv) ∧
      (Timer.interval iv).nextAfter scheduled = .ok (some first) ∧
      Misses (.interval iv) now (some first) UInt32.size := by
  intro iv scheduled first now
  have hnext : (Timer.interval iv).nextAfter scheduled = .ok (some first) := by decide
  obtain ⟨n, hn⟩ := exists_misses (increasing_interval _) now (some first)
  have hfirst : Instant.minNanos ≤ (1 : Int) := by decide
  have hcount : ∀ k : Nat, k < n ↔ (1 : Int) + k * (1 : Nat) ≤ 4294967296 :=
    Misses.lt_iff_of_interval hfirst (show Misses (.interval iv) now (Instant.ofNanos? 1) n from hn)
  have hlast := hcount 4294967295
  have hover := hcount 4294967296
  obtain rfl : n = UInt32.size := by
    simp only [UInt32.size]
    omega
  exact ⟨ofPeriod_eq_ok.2 ⟨by decide, by decide, rfl⟩, hnext, hn⟩

end Timer

end NodeSidecar
