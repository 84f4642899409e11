/-
**Instants on whole seconds.**

Instants at the start of a second are ordered as their seconds are, and an instant lies before such
a one when its second does.

Main results:

* `Instant.lt_iff_second_lt`, `Instant.le_iff_second_le` — the order of whole seconds;
* `Instant.second_lt_of_ofSecond?_none` — a second that is not representable is later than all.
-/

import NodeSidecar.Time.Instant

set_option autoImplicit false

namespace NodeSidecar

namespace Instant

theorem lt_iff_second_lt {a b : Instant} (h : b.fraction = 0) : a < b ↔ a.second < b.second := by
  simp only [lt_iff, second, fraction] at *
  omega

theorem le_iff_second_le {a b : Instant} (h : a.fraction = 0) : a ≤ b ↔ a.second ≤ b.second := by
  simp only [le_iff, second, fraction] at *
  omega

theorem second_of_ofSecond? {n : Int} {i : Instant} (h : ofSecond? n = some i) :
    i.second = n ∧ i.fraction = 0 := by
  have := nanos_of_ofNanos? h
  simp only [second, fraction]
  omega

theorem eq_of_second_eq {a b : Instant} (ha : a.fraction = 0) (hb : b.fraction = 0)
    (h : a.second = b.second) : a = b := by
  refine eq_of_nanos_eq ?_
  simp only [second, fraction] at *
  omega

/-- A second that is later than some instant is representable unless it is later than all. -/
theorem second_lt_of_ofSecond?_none {n : Int} {i : Instant} (h : ofSecond? n = none)
    (hi : i.second ≤ n) (j : Instant) : j.second < n := by
  have hlower := i.lower
  have hupper := j.upper
  simp only [ofSecond?, ofNanos?, minNanos] at h
  split at h
  · cases h
  · simp only [second] at *
    omega

theorem second_of_shift_second {start base : Instant}
    (h : start.shift? nanosPerSecond = some base) : base.second = start.second + 1 := by
  have := nanos_of_shift? h
  simp only [second, nanosPerSecond] at *
  omega

end Instant

end NodeSidecar
