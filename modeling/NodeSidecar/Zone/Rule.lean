/-
**Yearly changes of offset.**

A region with daylight saving time changes its offset twice a year, each time on a weekday counted
within a month.  A zone carries the changes its rule makes up to the year 2099; from then on the
offset stays as that year leaves it.

Main definitions:

* `Zone.Rule` — a standard and a daylight offset with the two moments of change;
* `Zone.Rule.changesIn` — the changes of one year, in order;
* `Zone.extend` — a history continued by a rule.
-/

import NodeSidecar.Zone.Basic

set_option autoImplicit false

namespace NodeSidecar.Zone

/-- A moment of the year: the `week`-th given weekday (0 for Sunday) of a month, the last one if
`week` is 5, and the seconds from its midnight by the wall clock. -/
structure Moment where
  month : Nat
  week : Nat
  weekday : Nat
  time : Int
  deriving DecidableEq, Repr, Inhabited

/-- The offsets of standard and daylight saving time, and the moments that begin and end the
latter. -/
structure Rule where
  standard : Int
  daylight : Int
  start : Moment
  stop : Moment
  deriving DecidableEq, Repr, Inhabited

/-- The day count of a moment in a year. -/
def Moment.dayIn (m : Moment) (year : Int) : Int :=
  let first := Date.toDays ⟨year, m.month, 1⟩
  let ahead := ((m.weekday : Int) - (first + 4)) % 7
  let day := first + ahead + 7 * ((m.week : Int) - 1)
  if day < first + daysInMonth year m.month then day else day - 7

/-- The wall clock second of a moment in a year. -/
def Moment.secondIn (m : Moment) (year : Int) : Int := m.dayIn year * 86400 + m.time

/-- The two changes of a year, in order. -/
def Rule.changesIn (r : Rule) (year : Int) : List Change :=
  let on : Change := ⟨r.start.secondIn year - r.standard, r.daylight⟩
  let off : Change := ⟨r.stop.secondIn year - r.daylight, r.standard⟩
  if on.second ≤ off.second then [on, off] else [off, on]

/-- The last year in which a rule makes a change. -/
def lastRuleYear : Nat := 2099

/-- The changes of a list that do change the offset. -/
def effective : Int → List Change → List Change
  | _, [] => []
  | before, c :: cs => if c.offset = before then effective before cs else c :: effective c.offset cs

/-- The changes a rule makes after second `last`, from its year to the last year of rules. -/
def Rule.changesAfter (r : Rule) (last : Int) : List Change :=
  let year := (LocalTime.ofSeconds last).date.year.toNat
  let years := (List.range (lastRuleYear + 1 - year)).map fun k => ((year + k : Nat) : Int)
  (years.flatMap r.changesIn).filter fun c => last < c.second

/-- The recorded changes, followed by those that the rule makes after the last of them. -/
def extend (initial : Int) (recorded : List Change) (rule? : Option Rule) : List Change :=
  match rule?, recorded.getLast? with
  | some r, some last => effective initial (recorded ++ r.changesAfter last.second)
  | _, _ => recorded

end NodeSidecar.Zone
