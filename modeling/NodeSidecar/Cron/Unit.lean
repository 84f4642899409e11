/-
**The units of a calendar expression.**

A calendar expression restricts seven units of the wall clock.  Each unit has a range of ordinals;
months and weekdays also have English names, which are read in any letter case.

Main definitions:

* `Cron.Unit` — second, minute, hour, day of the month, month, weekday and year;
* `Cron.Unit.least`, `Cron.Unit.greatest` — the range of a unit;
* `Cron.Unit.ordinals` — the ordinals of that range, in order;
* `Cron.Unit.named?` — the ordinal of a name.
-/

set_option autoImplicit false

namespace NodeSidecar.Cron

/-- A unit of the wall clock. -/
inductive Unit where
  | second
  | minute
  | hour
  | day
  | month
  | weekday
  | year
  deriving DecidableEq, Repr

namespace Unit

/-- The least ordinal of a unit. -/
def least : Unit → Nat
  | second | minute | hour => 0
  | day | month | weekday => 1
  | year => 1970

/-- The greatest ordinal of a unit. -/
def greatest : Unit → Nat
  | second | minute => 59
  | hour => 23
  | day => 31
  | month => 12
  | weekday => 7
  | year => 2100

/-- Whether an ordinal lies in the range of a unit. -/
def holds (u : Unit) (n : Nat) : Bool := decide (u.least ≤ n) && decide (n ≤ u.greatest)

/-- The ordinals from `a` to `b`, both included. -/
def between (a b : Nat) : List Nat := List.range' a (b + 1 - a)

/-- All ordinals of a unit, in order. -/
def ordinals (u : Unit) : List Nat := between u.least u.greatest

@[simp] theorem mem_between {a b n : Nat} : n ∈ between a b ↔ a ≤ n ∧ n ≤ b := by
  simp only [between, List.mem_range'_1]
  omega

theorem mem_ordinals {u : Unit} {n : Nat} : n ∈ u.ordinals ↔ u.holds n = true := by
  simp [ordinals, holds]

/-- Whether the field of a unit may hold `?` for all of its ordinals. -/
def allowsAny : Unit → Bool
  | day | weekday => true
  | _ => false

/-- The ordinals of the month names. -/
def monthNames : List (String × Nat) :=
  [("jan", 1), ("january", 1), ("feb", 2), ("february", 2), ("mar", 3), ("march", 3), ("apr", 4),
   ("april", 4), ("may", 5), ("jun", 6), ("june", 6), ("jul", 7), ("july", 7), ("aug", 8),
   ("august", 8), ("sep", 9), ("september", 9), ("oct", 10), ("october", 10), ("nov", 11),
   ("november", 11), ("dec", 12), ("december", 12)]

/-- The ordinals of the weekday names; the week starts on Sunday. -/
def weekdayNames : List (String × Nat) :=
  [("sun", 1), ("sunday", 1), ("mon", 2), ("monday", 2), ("tue", 3), ("tues", 3), ("tuesday", 3),
   ("wed", 4), ("wednesday", 4), ("thu", 5), ("thurs", 5), ("thursday", 5), ("fri", 6),
   ("friday", 6), ("sat", 7), ("saturday", 7)]

/-- The ordinal that a name has in a unit. -/
def named? (u : Unit) (name : List Char) : Option Nat :=
  let key := String.ofList (name.map Char.toLower)
  match u with
  | month => monthNames.lookup key
  | weekday => weekdayNames.lookup key
  | _ => none

end Unit

end NodeSidecar.Cron
