/-
**Timers.**

A timer says when a recurring task fires.  An interval timer fires at once and then after every
period; a calendar timer fires at the instants of a calendar expression on the wall clock of a
zone, always strictly after the instant it is asked about.

A period is longer than nothing and at most 2 ^ 63 − 1 milliseconds, the longest span by which an
instant can be moved.

Main definitions:

* `Timer`, `IntervalTimer`, `CronTimer` — the two kinds of timer;
* `Timer.interval`, `Timer.everyMillis`, `Timer.cron`, `Timer.cronIn`, `Timer.hourly`,
  `Timer.daily`, `Timer.weekly` — the checked constructors;
* `Timer.firstFire`, `Timer.nextAfter`, `Timer.fires` — the instants of a timer;
* `TimerError` — why a timer cannot be built, with its wording;
* `Timer.text` — a timer in words.
-/

import NodeSidecar.Cron.Search
import NodeSidecar.Decode.Format
import NodeSidecar.Zone.Database

set_option autoImplicit false

namespace NodeSidecar

/-- A field of a time of day. -/
inductive TimeField where
  | hour
  | minute
  | second
  deriving DecidableEq, Repr

/-- The name of a field. -/
def TimeField.name : TimeField → String
  | .hour => "hour"
  | .minute => "minute"
  | .second => "second"

/-- The greatest value of a field. -/
def TimeField.greatest : TimeField → Nat
  | .hour => 23
  | .minute | .second => 59

/-- Why a length of time is no period. -/
inductive PeriodFault where
  | zero
  | tooLong
  deriving DecidableEq, Repr

/-- Why a timer cannot be built. -/
inductive TimerError where
  | invalidCron (fault : Cron.Fault)
  | invalidInterval (fault : PeriodFault)
  | invalidTimezone (name : String)
  | outOfRange (field : TimeField) (value : Nat)
  deriving DecidableEq, Repr

/-- What is wrong with a period, in words. -/
def PeriodFault.message : PeriodFault → String
  | .zero => "period must be non-zero"
  | .tooLong => "Source duration value is out of range for the target type"

/-- Why a timer cannot be built, in words. -/
def TimerError.message : TimerError → String
  | .invalidCron fault => "invalid cron expression: " ++ fault.message
  | .invalidInterval fault => "invalid interval: " ++ fault.message
  | .invalidTimezone name => "invalid timezone: " ++ name
  | .outOfRange field value => field.name ++ " out of range: " ++ toString value

/-- A day of the week. -/
inductive Weekday where
  | sunday
  | monday
  | tuesday
  | wednesday
  | thursday
  | friday
  | saturday
  deriving DecidableEq, Repr

/-- The three capital letters that stand for a weekday. -/
def Weekday.code : Weekday → String
  | .sunday => "SUN"
  | .monday => "MON"
  | .tuesday => "TUE"
  | .wednesday => "WED"
  | .thursday => "THU"
  | .friday => "FRI"
  | .saturday => "SAT"

/-- All weekdays, from Sunday. -/
def Weekday.all : List Weekday :=
  [.sunday, .monday, .tuesday, .wednesday, .thursday, .friday, .saturday]

/-- Decodes a weekday from its code. -/
def Weekday.decode {δ : Type} (f : Decode.Format δ) (d : δ) : Decode.Decoded Weekday :=
  Decode.choice f (Weekday.all.map fun day => (day.code, day)) d

/-- The nanoseconds of the longest period. -/
def longestPeriod : Nat := (UInt64.size / 2 - 1) * 1000000

/-- A timer that fires at once and then after every period. -/
structure IntervalTimer where
  period : Duration
  positive : 0 < period.nanos
  bounded : period.nanos ≤ longestPeriod

/-- A timer that fires at the instants of an expression, kept as it was given. -/
structure CronTimer where
  expression : String
  zone : Zone
  schedule : Cron.Schedule

/-- When a recurring task fires. -/
inductive Timer where
  | interval (timer : IntervalTimer)
  | cron (timer : CronTimer)

namespace Timer

/-- The interval timer with the given period. -/
def ofPeriod (period : Duration) : Except TimerError Timer :=
  if positive : 0 < period.nanos then
    if bounded : period.nanos ≤ longestPeriod then .ok (.interval ⟨period, positive, bounded⟩)
    else .error (.invalidInterval .tooLong)
  else .error (.invalidInterval .zero)

/-- The interval timer with a period in milliseconds. -/
def everyMillis (ms : Nat) : Except TimerError Timer := ofPeriod (.ofMillis ms)

/-- The calendar timer of an expression in a zone. -/
def ofExpression (expression : String) (zone : Zone) : Except TimerError Timer :=
  match Cron.Schedule.ofExpression expression with
  | .ok schedule => .ok (.cron ⟨expression, zone, schedule⟩)
  | .error fault => .error (.invalidCron fault)

/-- The calendar timer of an expression in the zone of the given name. -/
def cronIn (expression zoneName : String) : Except TimerError Timer :=
  match Zone.find? zoneName with
  | some zone => ofExpression expression zone
  | none => .error (.invalidTimezone zoneName)

/-- The calendar timer of an expression in UTC. -/
def ofCron (expression : String) : Except TimerError Timer := ofExpression expression Zone.utc

/-- Refuses a value above the greatest of its field. -/
def check (field : TimeField) (value : Nat) : Except TimerError Unit :=
  if value ≤ field.greatest then .ok () else .error (.outOfRange field value)

/-- Fires every hour at the given minute and second. -/
def hourly (minute second : Nat) : Except TimerError Timer := do
  check .minute minute
  check .second second
  ofCron (toString second ++ " " ++ toString minute ++ " * * * ?")

/-- Fires every day at the given time. -/
def daily (hour minute second : Nat) : Except TimerError Timer := do
  check .hour hour
  check .minute minute
  check .second second
  ofCron (toString second ++ " " ++ toString minute ++ " " ++ toString hour ++ " * * ?")

/-- Fires every week on the given day at the given time. -/
def weekly (day : Weekday) (hour minute second : Nat) : Except TimerError Timer := do
  check .hour hour
  check .minute minute
  check .second second
  ofCron (toString second ++ " " ++ toString minute ++ " " ++ toString hour ++ " ? * " ++ day.code)

/-- The expression of a calendar timer. -/
def expression? : Timer → Option String
  | .interval _ => none
  | .cron t => some t.expression

/-- The period of an interval timer. -/
def period? : Timer → Option Duration
  | .interval t => some t.period
  | .cron _ => none

/-- The zone name of a calendar timer. -/
def zoneName? : Timer → Option String
  | .interval _ => none
  | .cron t => some t.zone.name

/-- The first instant of a timer that is started at `start`. -/
def firstFire (t : Timer) (start : Instant) : Except Cron.Breakdown (Option Instant) :=
  match t with
  | .interval _ => .ok (some start)
  | .cron c => c.schedule.next c.zone start

/-- The instant of a timer that follows `previous`. -/
def nextAfter (t : Timer) (previous : Instant) : Except Cron.Breakdown (Option Instant) :=
  match t with
  | .interval i => .ok (previous.shift? i.period.nanos)
  | .cron c => c.schedule.next c.zone previous

/-- At most `count` instants, the first of which is `next?`.  The one after an instant is computed
before the instant is given out. -/
def firesFrom (t : Timer) : Nat → Option Instant → Except Cron.Breakdown (List Instant)
  | 0, _ => .ok []
  | _, none => .ok []
  | count + 1, some i => do
    let next? ← t.nextAfter i
    return i :: (← firesFrom t count next?)

/-- The first `count` instants of a timer that is started at `start`. -/
def fires (t : Timer) (start : Instant) (count : Nat) : Except Cron.Breakdown (List Instant) := do
  t.firesFrom count (← t.firstFire start)

/-- A timer in words. -/
def text : Timer → String
  | .interval t => "every " ++ t.period.text
  | .cron t => "cron '" ++ t.expression ++ "' (" ++ t.zone.name ++ ")"

end Timer

end NodeSidecar
