/-
**Calendar schedules.**

A schedule holds the ordinals that an expression allows in each unit.  An expression has five or
six fields separated by blanks: second, minute, hour, day of the month, month and weekday, where
the second may be left out and is then zero.  A field that is just `?` allows all ordinals.

The fields are then read from the text with single spaces between them.  The readers of fields
find the end of a field themselves, so fields need not be separated and a field for years may
follow the weekday.

Main definitions:

* `Cron.Schedule` — the allowed ordinals of each unit, in order;
* `Cron.normalize` — the text that is read;
* `Cron.Schedule.ofExpression` — the schedule of an expression.
-/

import NodeSidecar.Cron.Grammar
import NodeSidecar.Text.Blank

set_option autoImplicit false

namespace NodeSidecar.Cron

/-- The ordinals a schedule allows in each unit, in order. -/
structure Schedule where
  seconds : List Nat
  minutes : List Nat
  hours : List Nat
  days : List Nat
  months : List Nat
  weekdays : List Nat
  years : List Nat
  deriving DecidableEq, Repr, Inhabited

/-- Why a text is no calendar expression. -/
inductive Fault where
  /-- It has neither five nor six fields. -/
  | fieldCount (n : Nat)
  /-- Its fields cannot be read. -/
  | unreadable
  deriving DecidableEq, Repr

/-- What is wrong with the expression, in words. -/
def Fault.message : Fault → String
  | .fieldCount n => "expected 5 or 6 fields, got " ++ toString n
  | .unreadable => "Invalid expression: Invalid cron expression."

/-- A field on its own, with the sign for any value written as that for all values. -/
def plainField (field : String) : String := if field = "?" then "*" else field

/-- The fields of an expression with single spaces between them, the second included. -/
def normalize (expression : String) : Except Fault String :=
  let fields := (Text.words expression).map plainField
  match fields.length with
  | 5 => .ok (" ".intercalate ("0" :: fields))
  | 6 => .ok (" ".intercalate fields)
  | n => .error (.fieldCount n)

/-- The ordinals of the field at the start of `cs`, and the characters after it. -/
def field? (u : Unit) (cs : List Char) : Option (List Nat × List Char) := do
  let (terms, cs) ← terms? u.allowsAny cs
  return (← fieldOrdinals? u terms, cs)

/-- The years of the field that makes up `cs`; all years when nothing is left to read. -/
def years? (cs : List Char) : Option (List Nat) :=
  match field? .year cs with
  | some (years, rest) => if rest.isEmpty then some years else none
  | none => if cs.isEmpty then some Unit.year.ordinals else none

/-- The schedule that a normalized text denotes. -/
def Schedule.read? (cs : List Char) : Option Schedule := do
  let (seconds, cs) ← field? .second cs
  let (minutes, cs) ← field? .minute cs
  let (hours, cs) ← field? .hour cs
  let (days, cs) ← field? .day cs
  let (months, cs) ← field? .month cs
  let (weekdays, cs) ← field? .weekday cs
  return { seconds, minutes, hours, days, months, weekdays, years := ← years? cs }

/-- The schedule of an expression. -/
def Schedule.ofExpression (expression : String) : Except Fault Schedule := do
  match Schedule.read? (← normalize expression).toList with
  | some schedule => .ok schedule
  | none => .error .unreadable

end NodeSidecar.Cron
