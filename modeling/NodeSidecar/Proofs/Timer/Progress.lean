/-
**Timers move forward.**

Whatever instant a timer is asked about, its answer is a later one: for an interval because a period
is longer than nothing, and for a calendar because the next instant of a schedule is later in every
zone.  So the instants of a timer ascend.

Catching up with a clock is a loop that takes no care to end: it passes over one instant after the
other until one lies after the clock.  Along a timer that moves forward it ends all the same, since
there are only so many nanoseconds up to the clock.

Main definitions:

* `Timer.Built` — a timer that a constructor has accepted;
* `CatchesUp` — the rules of catching up, round by round.

Main results:

* `Timer.Built.increasing` — a timer that was built moves forward;
* `catchesUp_catchUp` — along a timer that moves forward catching up ends;
* `Timer.timers_move_forward` — **both for every timer that can be built.**
-/

import NodeSidecar.Config.TimerSection
import NodeSidecar.Proofs.Timer.EarliestMatch
import NodeSidecar.Proofs.Timer.Regular

set_option autoImplicit false

namespace NodeSidecar

/-! ### Catching up, round by round -/

/-- **The rules of catching up** with a clock: the timer has ended, an instant lies after the clock,
the timer breaks down, or an instant is passed over and the next one takes its place. -/
inductive CatchesUp (t : Timer) (now : Instant) :
    Option Instant → Nat → Except Cron.Breakdown (Option Instant × Nat) → Prop
  | ended (missed : Nat) : CatchesUp t now none missed (.ok (none, missed))
  | ahead (missed : Nat) {i : Instant} (h : now < i) :
      CatchesUp t now (some i) missed (.ok (some i, missed))
  | brokenDown (missed : Nat) {i : Instant} {b : Cron.Breakdown} (h : ¬ now < i)
      (hnext : t.nextAfter i = .error b) : CatchesUp t now (some i) missed (.error b)
  | passed {missed : Nat} {i : Instant} {next? : Option Instant}
      {result : Except Cron.Breakdown (Option Instant × Nat)} (h : ¬ now < i)
      (hnext : t.nextAfter i = .ok next?) (hrest : CatchesUp t now next? (missed + 1) result) :
      CatchesUp t now (some i) missed result

/-- **Along a timer that moves forward catching up ends**, with the result of `catchUp`. -/
theorem catchesUp_catchUp {t : Timer} (inc : t.Increasing) (now : Instant) (at? : Option Instant)
    (missed : Nat) : CatchesUp t now at? missed (catchUp t now at? missed) := by
  fun_induction catchUp t now at? missed with
  | case1 missed => exact .ended missed
  | case2 missed i h => exact .ahead missed h
  | case3 missed i h b hnext => exact .brokenDown missed h hnext
  | case4 missed i h hnext => exact .passed h hnext (.ended (missed + 1))
  | case5 missed i h j hnext _ ih => exact .passed h hnext ih
  | case6 missed i h j hnext hnot => exact absurd (inc i j hnext) hnot

namespace Timer

theorem increasing_cron {c : CronTimer} (hs : c.schedule.IsProper) : (Timer.cron c).Increasing :=
  fun _ _ => Cron.Schedule.lt_of_next hs

/-! ### Timers that were built -/

/-- **A timer that a constructor has accepted**: it was given a period, or an expression and a
zone. -/
inductive Built (t : Timer) : Prop
  | ofPeriod (period : Duration) (h : Timer.ofPeriod period = .ok t)
  | ofExpression (expression : String) (z : Zone) (h : Timer.ofExpression expression z = .ok t)

namespace Built

variable {t : Timer}

theorem of_cronIn {expression zoneName : String} (h : cronIn expression zoneName = .ok t) :
    t.Built := by
  unfold cronIn at h
  split at h
  · next z _ => exact .ofExpression expression z h
  · cases h

/-- A timer that is set by a time is built from its expression. -/
theorem of_regular {r : RegularTimer} (h : r.build = .ok t) : t.Built := by
  rw [RegularTimer.build_eq] at h
  split at h
  · cases h
  · exact .ofExpression _ Zone.utc h

/-- A section of a configuration builds its timer from a period or an expression. -/
theorem of_section {s : TimerSection} {zone : String} (h : s.build zone = .ok t) : t.Built := by
  cases s with
  | interval ms => exact .ofPeriod _ h
  | cron expression zone? => exact of_cronIn h

/-- **A timer that was built moves forward.** -/
theorem increasing (ht : t.Built) : t.Increasing := by
  cases ht with
  | ofPeriod period h =>
      unfold Timer.ofPeriod at h
      split at h
      · split at h
        · exact Except.ok.inj h ▸ increasing_interval _
        · cases h
      · cases h
  | ofExpression expression z h =>
      obtain ⟨s, hs, rfl⟩ := exists_schedule_of_ofExpression h
      exact increasing_cron (Cron.isProper_of_ofExpression hs)

end Built

/-- **Every timer that can be built moves forward**: what it answers is later than what it is asked
about, its instants ascend from every start, and catching up with a clock ends wherever it begins. -/
theorem timers_move_forward {t : Timer} (ht : t.Built) :
    (∀ i j, t.nextAfter i = .ok (some j) → i < j) ∧
    (∀ start k m i j, t.upcoming start k = .ok (some i) → t.upcoming start m = .ok (some j) →
      k < m → i < j) ∧
    ∀ now at? missed, CatchesUp t now at? missed (catchUp t now at? missed) :=
  ⟨ht.increasing, fun _ _ _ _ _ => upcoming_lt ht.increasing, catchesUp_catchUp ht.increasing⟩

/-- A quarter of an hour before a clock is put back from three to two, a timer for half past two
passes over both times of that night. -/
theorem timers_move_forward_of_clock_put_back :
    let t : Timer := .cron ⟨"30 2 * * ?", .seasonal, ⟨[0], [30], [2], Cron.Unit.day.ordinals,
      Cron.Unit.month.ordinals, Cron.Unit.weekday.ordinals, Cron.Unit.year.ordinals⟩⟩
    let i : Instant := ⟨1729989900 * 1000000000, by decide, by decide⟩
    let j : Instant := ⟨1730079000 * 1000000000, by decide, by decide⟩
    t.Built ∧ t.nextAfter i = .ok (some j) ∧ i < j ∧
      CatchesUp t j (some i) 0 (catchUp t j (some i) 0) := by
  intro t i j
  have hschedule : Cron.Schedule.ofExpression "30 2 * * ?" = .ok ⟨[0], [30], [2],
      Cron.Unit.day.ordinals, Cron.Unit.month.ordinals, Cron.Unit.weekday.ordinals,
      Cron.Unit.year.ordinals⟩ := by
    decide +kernel
  have ht : t.Built := .ofExpression "30 2 * * ?" .seasonal (by rw [Timer.ofExpression, hschedule])
  obtain ⟨hlater, -, hends⟩ := timers_move_forward ht
  have hnext : t.nextAfter i = .ok (some j) := by decide +kernel
  exact ⟨ht, hnext, hlater i j hnext, hends j (some i) 0⟩

end Timer

end NodeSidecar
