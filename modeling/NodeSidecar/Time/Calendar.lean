/-
**The civil calendar.**

Dates of the proleptic Gregorian calendar, times of day, and their count of days and seconds from
1970-01-01.  A date is any triple; the operations that produce one produce a real date.

Main definitions:

* `Date`, `TimeOfDay`, `LocalTime` — a date, a time of day, and both;
* `daysInMonth` — the length of a month;
* `Date.toDays`, `Date.ofDays` — the day count and the date of a day count;
* `Date.weekday` — the day of the week, 1 for Sunday to 7 for Saturday;
* `LocalTime.toSeconds`, `LocalTime.ofSeconds` — the same for seconds.
-/

import NodeSidecar.Time.Instant

set_option autoImplicit false

namespace NodeSidecar

/-- Whether a year has a 29 February. -/
def isLeapYear (year : Int) : Bool :=
  year % 4 == 0 && (year % 100 != 0 || year % 400 == 0)

/-- The number of days of a month. -/
def daysInMonth (year : Int) (month : Nat) : Nat :=
  match month with
  | 2 => if isLeapYear year then 29 else 28
  | 4 | 6 | 9 | 11 => 30
  | _ => 31

theorem daysInMonth_pos (year : Int) (month : Nat) : 28 ≤ daysInMonth year month := by
  unfold daysInMonth
  split <;> (try split) <;> omega

theorem daysInMonth_le (year : Int) (month : Nat) : daysInMonth year month ≤ 31 := by
  unfold daysInMonth
  split <;> (try split) <;> omega

/-- A date of the proleptic Gregorian calendar. -/
structure Date where
  year : Int
  month : Nat
  day : Nat
  deriving DecidableEq, Repr, Inhabited

/-- A time of day to the second. -/
structure TimeOfDay where
  hour : Nat
  minute : Nat
  second : Nat
  deriving DecidableEq, Repr, Inhabited

/-- A date and a time of day, read off a wall clock. -/
structure LocalTime where
  date : Date
  time : TimeOfDay
  deriving DecidableEq, Repr, Inhabited

namespace Date

/-- The days from 1970-01-01 to a date.  Years are counted from March, so that the leap day is the
last day of its year. -/
def toDays (d : Date) : Int :=
  let y := if d.month ≤ 2 then d.year - 1 else d.year
  let m := (d.month + 9) % 12
  365 * y + y / 4 - y / 100 + y / 400 + ((153 * m + 2) / 5 : Nat) + d.day - 1 - 719468

/-- The date that lies `n` days after 1970-01-01. -/
def ofDays (n : Int) : Date :=
  let z := n + 719468
  let era := z / 146097
  let doe := z % 146097
  let yoe := (doe - doe / 1460 + doe / 36524 - doe / 146096) / 365
  let doy := doe - (365 * yoe + yoe / 4 - yoe / 100)
  let mp := (5 * doy + 2) / 153
  let day := doy - (153 * mp + 2) / 5 + 1
  let month := if mp < 10 then mp + 3 else mp - 9
  let year := yoe + era * 400 + (if month ≤ 2 then 1 else 0)
  ⟨year, month.toNat, day.toNat⟩

/-- The day of the week of a day count, 1 for Sunday to 7 for Saturday. -/
def weekdayOfDays (n : Int) : Nat := ((n + 4) % 7).toNat + 1

/-- The day of the week of a date, 1 for Sunday to 7 for Saturday. -/
def weekday (d : Date) : Nat := weekdayOfDays d.toDays

end Date

namespace TimeOfDay

/-- The seconds since midnight. -/
def toSeconds (t : TimeOfDay) : Nat := t.hour * 3600 + t.minute * 60 + t.second

/-- The time of day `n` seconds after midnight. -/
def ofSeconds (n : Nat) : TimeOfDay := ⟨n / 3600, n / 60 % 60, n % 60⟩

@[simp] theorem toSeconds_ofSeconds (n : Nat) : (ofSeconds n).toSeconds = n := by
  simp only [ofSeconds, toSeconds]
  omega

end TimeOfDay

namespace LocalTime

/-- The seconds of a wall clock time from 1970-01-01T00:00:00 on the same clock. -/
def toSeconds (t : LocalTime) : Int := t.date.toDays * 86400 + t.time.toSeconds

/-- The wall clock time `n` seconds after 1970-01-01T00:00:00 on the same clock. -/
def ofSeconds (n : Int) : LocalTime :=
  ⟨Date.ofDays (n / 86400), TimeOfDay.ofSeconds (n % 86400).toNat⟩

end LocalTime

end NodeSidecar
