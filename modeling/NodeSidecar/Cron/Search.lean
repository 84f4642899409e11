/-
**The next instant of a schedule.**

The search runs over the wall clock of a zone, from one second after the given instant on, by
year, month, day and time of day.  On each date it takes the first allowed time that belongs to
exactly one instant.

The month, day and time at which the search starts bound it from below in the first year that the
schedule allows, whether or not that is the year in which it starts.  The time of day bounds the
search only on the day that it belongs to, or on the last day of a month too short to have it.

Main definitions:

* `Cron.Breakdown` — the two ways in which a search gives no answer at all;
* `Cron.Schedule.firstTime?` — the first allowed time of day with a property;
* `Cron.Schedule.onDay?`, `inMonth?`, `inYear?` — the search within a day, month or year;
* `Cron.Schedule.next` — the next instant.
-/

import NodeSidecar.Cron.Schedule
import NodeSidecar.Zone.Basic

set_option autoImplicit false

namespace NodeSidecar.Cron

/-- Why a search breaks down. -/
inductive Breakdown where
  /-- One second after the given instant is no representable instant. -/
  | beyondRange
  /-- A date to be searched does not occur in the zone. -/
  | missingDate
  deriving DecidableEq, Repr

namespace Schedule

/-- The first result of `f` on the allowed times of day from `floor` on, in order. -/
def firstTime? {α : Type} (s : Schedule) (floor : TimeOfDay) (f : TimeOfDay → Option α) :
    Option α :=
  s.hours.findSome? fun h =>
    if h < floor.hour then none
    else s.minutes.findSome? fun m =>
      if h = floor.hour ∧ m < floor.minute then none
      else s.seconds.findSome? fun sec =>
        if h = floor.hour ∧ m = floor.minute ∧ sec < floor.second then none else f ⟨h, m, sec⟩

/-- The second found on a date, given as a day count, from the time `floor` on. -/
def onDay? (s : Schedule) (z : Zone) (day : Int) (floor : TimeOfDay) :
    Option (Except Breakdown Int) :=
  if (s.firstTime? floor some).isNone then none
  else if !z.hasDay day then some (.error .missingDate)
  else if !s.weekdays.contains (Date.weekdayOfDays day) then none
  else (s.firstTime? floor fun t => z.unique? (day * 86400 + t.toSeconds)).map .ok

/-- The second found in a month, from day `first` on and there from the time `floor` on. -/
def inMonth? (s : Schedule) (z : Zone) (year month first : Nat) (floor : TimeOfDay) :
    Option (Except Breakdown Int) :=
  let length := daysInMonth year month
  let start := min first length
  s.days.findSome? fun d =>
    if d < start ∨ length < d then none
    else
      let bounded := d = start ∧ first ∈ s.days
      s.onDay? z (Date.toDays ⟨year, month, d⟩) (if bounded then floor else ⟨0, 0, 0⟩)

/-- The second found in a year, from the month, day and time of `floor` on. -/
def inYear? (s : Schedule) (z : Zone) (year : Nat) (floor : LocalTime) :
    Option (Except Breakdown Int) :=
  s.months.findSome? fun m =>
    if m < floor.date.month then none
    else if m = floor.date.month then s.inMonth? z year m floor.date.day floor.time
    else s.inMonth? z year m 1 ⟨0, 0, 0⟩

/-- The lower bound of a year that is searched as a whole. -/
def wholeYear : LocalTime := ⟨⟨0, 1, 1⟩, ⟨0, 0, 0⟩⟩

/-- The second found from a wall clock time on. -/
def search? (s : Schedule) (z : Zone) (floor : LocalTime) : Option (Except Breakdown Int) :=
  if floor.date.year < 0 then none
  else
    match s.years.filter fun y : Nat => decide (floor.date.year ≤ (y : Int)) with
    | [] => none
    | y :: ys =>
      (s.inYear? z y floor).or (ys.findSome? fun y => s.inYear? z y wholeYear)

/-- The next instant of the schedule on the wall clock of a zone, after the given one. -/
def next (s : Schedule) (z : Zone) (after : Instant) : Except Breakdown (Option Instant) :=
  match after.shift? nanosPerSecond with
  | none => .error .beyondRange
  | some base =>
    match s.search? z (LocalTime.ofSeconds (z.wallClock base.second)) with
    | none => .ok none
    | some (.error b) => .error b
    | some (.ok second) => .ok (Instant.ofSecond? second)

end Schedule

end NodeSidecar.Cron
