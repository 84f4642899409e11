/-
**Intervals are exact.**

An interval timer is built from every period that an instant can be moved by, and from no other
one.  It fires at its start and then after every period, and each of its fires is reached by adding
the period to the one before.  No error adds up on the way: the `k`-th fire is exactly `k` periods
after the start, to the nanosecond.  The timer ends with the last fire that is representable, without
breaking down there, and does not start again.

Main definition: `Instant.periodsLeft` — how many periods fit in behind an instant.

Main results:

* `Timer.exists_ofPeriod_iff` — the periods that are accepted;
* `Timer.upcoming_interval` — each instant of an interval timer;
* `Timer.intervals_are_exact` — **intervals are exact up to the end of the time line**.
-/

import NodeSidecar.Proofs.Timer.Upcoming

set_option autoImplicit false

namespace NodeSidecar

/-- The number of whole periods between an instant and the last representable one. -/
def Instant.periodsLeft (i : Instant) (period : Duration) : Nat :=
  ((maxNanos - i.nanos) / period.nanos).toNat

/-- The range of the time line has no gaps. -/
theorem Instant.exists_ofNanos?_add {start : Instant} {n : Nat}
    (h : start.nanos + n ≤ maxNanos) : ∃ i, ofNanos? (start.nanos + n) = some i := by
  have hlower := start.lower
  refine ⟨_, dif_pos ⟨?_, Int.lt_of_le_sub_one h⟩⟩
  simp only [minNanos]
  omega

/-- What is not representable is too late, when it is not too early. -/
theorem Instant.maxNanos_lt_of_ofNanos?_none {n : Int} (h : ofNanos? n = none)
    (hlower : minNanos ≤ n) : maxNanos < n := by
  refine Int.not_le.1 fun hle => ?_
  rw [ofNanos?, dif_pos ⟨hlower, Int.lt_of_le_sub_one hle⟩] at h
  cases h

theorem Instant.ofNanos?_add_eq_none {start : Instant} {n : Nat}
    (h : maxNanos < start.nanos + n) : ofNanos? (start.nanos + n) = none :=
  dif_neg fun hin => absurd (Int.le_sub_one_of_lt hin.2) (Int.not_le.2 h)

theorem Instant.le_periodsLeft_iff (start : Instant) {period : Duration} (h : 0 < period.nanos)
    {k : Nat} : k ≤ start.periodsLeft period ↔ start.nanos + k * period.nanos ≤ maxNanos := by
  have hupper : start.nanos ≤ maxNanos := Int.le_sub_one_of_lt start.upper
  have hpos : (0 : Int) < period.nanos := Int.natCast_pos.2 h
  have hnonneg : 0 ≤ (maxNanos - start.nanos) / period.nanos :=
    Int.ediv_nonneg (Int.sub_nonneg.2 hupper) (Int.natCast_nonneg _)
  rw [periodsLeft, Int.le_toNat hnonneg, Int.le_ediv_iff_mul_le hpos]
  omega

/-- A list of the numbers for which there is something, when these are the first ones. -/
theorem filterMap_range_of_lt {α : Type} {f : Nat → Option α} {g : Nat → α} {c : Nat}
    (hlt : ∀ k < c, f k = some (g k)) (hle : ∀ k, c ≤ k → f k = none) (n : Nat) :
    (List.range n).filterMap f = (List.range (min n c)).map g := by
  induction n with
  | zero => simp
  | succ n ih =>
      rw [List.range_succ, List.filterMap_append, ih]
      rcases Nat.lt_or_ge n c with h | h
      · rw [Nat.min_eq_left (Nat.le_of_lt h), Nat.min_eq_left h, List.range_succ, List.map_append]
        simp [hlt n h]
      · rw [Nat.min_eq_right h, Nat.min_eq_right (Nat.le_succ_of_le h)]
        simp [hle n h]

namespace Timer

variable {t : Timer} {period : Duration}

theorem ofPeriod_eq_ok : ofPeriod period = .ok t ↔
    ∃ (h₀ : 0 < period.nanos) (h₁ : period.nanos ≤ longestPeriod),
      t = .interval ⟨period, h₀, h₁⟩ := by
  unfold ofPeriod
  split
  · next h₀ =>
    split
    · next h₁ => simp [h₀, h₁, eq_comm]
    · next h₁ => simp [h₁]
  · next h₀ => simp [h₀]

/-- **The periods that are accepted**, up to 2 ^ 63 − 1 milliseconds. -/
theorem exists_ofPeriod_iff :
    (∃ t, ofPeriod period = .ok t) ↔ 0 < period.nanos ∧ period.nanos ≤ longestPeriod := by
  simp only [ofPeriod_eq_ok]
  constructor
  · rintro ⟨t, h₀, h₁, -⟩
    exact ⟨h₀, h₁⟩
  · rintro ⟨h₀, h₁⟩
    exact ⟨_, h₀, h₁, rfl⟩

/-- **Each instant of an interval timer** is a whole number of periods after the start. -/
theorem upcoming_interval (i : IntervalTimer) (start : Instant) (k : Nat) :
    (Timer.interval i).upcoming start k =
      .ok (Instant.ofNanos? (start.nanos + (k * i.period.nanos : Nat))) := by
  induction k with
  | zero => simp [upcoming, firstFire]
  | succ k ih =>
      have hsum : start.nanos + ((k + 1) * i.period.nanos : Nat) =
          start.nanos + (k * i.period.nanos : Nat) + i.period.nanos := by
        rw [Nat.succ_mul, Int.natCast_add, Int.add_assoc]
      cases hk : Instant.ofNanos? (start.nanos + (k * i.period.nanos : Nat)) with
      | some j =>
          rw [hk] at ih
          rw [upcoming_succ_of_some ih, nextAfter, Instant.shift?, Instant.nanos_of_ofNanos? hk, hsum]
      | none =>
          rw [hk] at ih
          rw [upcoming_succ_of_none ih]
          -- what follows is even further beyond the range
          have hbeyond : Instant.maxNanos < start.nanos + (k * i.period.nanos : Nat) :=
            Instant.maxNanos_lt_of_ofNanos?_none hk
              (Int.le_trans start.lower (Int.le_add_of_nonneg_right (Int.natCast_nonneg _)))
          have hlater : Instant.maxNanos < start.nanos + ((k + 1) * i.period.nanos : Nat) := by
            omega
          rw [Instant.ofNanos?_add_eq_none hlater]

/-- **Intervals are exact.**  A timer is built from every period up to 2 ^ 63 − 1 milliseconds but
the empty one.  From every start its `k`-th instant is exactly `k` periods later as long as that is
representable, and there is none from then on; its fires are those instants. -/
theorem intervals_are_exact :
    (∀ period : Duration, (∃ t, ofPeriod period = .ok t) ↔
      0 < period.nanos ∧ period.nanos ≤ (Nat.pow 2 63 - 1) * 1000000) ∧
    (∀ ms, (∃ t, everyMillis ms = .ok t) ↔ 1 ≤ ms ∧ ms ≤ Nat.pow 2 63 - 1) ∧
    ∀ period t, ofPeriod period = .ok t → ∀ start : Instant,
      (∀ k : Nat, start.nanos + k * period.nanos ≤ Instant.maxNanos →
        ∃ i, t.upcoming start k = .ok (some i) ∧ i.nanos = start.nanos + k * period.nanos) ∧
      (∀ k : Nat, Instant.maxNanos < start.nanos + k * period.nanos →
        t.upcoming start k = .ok none) ∧
      ∀ n, ∃ is, t.fires start n = .ok is ∧ is.map Instant.nanos =
        (List.range (min n (start.periodsLeft period + 1))).map fun k : Nat =>
          start.nanos + k * period.nanos := by
  have hlongest : longestPeriod = (Nat.pow 2 63 - 1) * 1000000 := rfl
  refine ⟨fun period => exists_ofPeriod_iff, fun ms => ?_, ?_⟩
  · rw [everyMillis, exists_ofPeriod_iff, Duration.nanos_ofMillis, hlongest]
    omega
  · intro period t ht start
    obtain ⟨h₀, h₁, rfl⟩ := ofPeriod_eq_ok.1 ht
    have hupcoming := upcoming_interval ⟨period, h₀, h₁⟩ start
    have hin {k : Nat} (h : start.nanos + k * period.nanos ≤ Instant.maxNanos) :
        ∃ i, Instant.ofNanos? (start.nanos + (k * period.nanos : Nat)) = some i :=
      Instant.exists_ofNanos?_add (by rwa [Int.natCast_mul])
    have hout {k : Nat} (h : Instant.maxNanos < start.nanos + k * period.nanos) :
        Instant.ofNanos? (start.nanos + (k * period.nanos : Nat)) = none :=
      Instant.ofNanos?_add_eq_none (by rwa [Int.natCast_mul])
    refine ⟨fun k hk => ?_, fun k hk => ?_, fun n => ⟨_, fires_of_upcoming hupcoming n, ?_⟩⟩
    · obtain ⟨i, hi⟩ := hin hk
      refine ⟨i, (hupcoming k).trans (congrArg _ hi), ?_⟩
      rw [Instant.nanos_of_ofNanos? hi, Int.natCast_mul]
    · exact (hupcoming k).trans (congrArg _ (hout hk))
    · rw [List.map_filterMap]
      refine filterMap_range_of_lt (fun k hk => ?_) (fun k hk => ?_) n
      · obtain ⟨i, hi⟩ := hin ((start.le_periodsLeft_iff h₀).1 (Nat.le_of_lt_succ hk))
        rw [hi, Option.map_some, Instant.nanos_of_ofNanos? hi, Int.natCast_mul]
      · have hbeyond := mt (start.le_periodsLeft_iff h₀).2 (Nat.not_le.2 hk)
        rw [hout (Int.not_le.1 hbeyond), Option.map_none]

/-- A timer of the shortest period that is started a nanosecond before the end of the time line
fires twice. -/
theorem intervals_are_exact_of_last_nanoseconds :
    let period : Duration := ⟨1⟩
    let start : Instant := ⟨Instant.maxNanos - 1, by decide, by decide⟩
    ∃ t, ofPeriod period = .ok t ∧ t.upcoming start 2 = .ok none ∧
      ∃ is, t.fires start 5 = .ok is ∧
        is.map Instant.nanos = [Instant.maxNanos - 1, Instant.maxNanos] := by
  intro period start
  obtain ⟨hbuilt, -, hexact⟩ := intervals_are_exact
  obtain ⟨t, ht⟩ := (hbuilt period).2 (by decide)
  obtain ⟨-, hended, hfires⟩ := hexact period t ht start
  obtain ⟨is, his, hnanos⟩ := hfires 5
  exact ⟨t, ht, hended 2 (by decide), is, his, hnanos.trans (by decide)⟩

end Timer

end NodeSidecar
