/-
**Written zone records.**

A record is a list of words: the name of a zone, the offsets it has used, its recorded changes and
the rule it follows since.  The changes are written one after another, each as the seconds since
the change before it (the first since 1970) and a letter, `a` for the first of the offsets and so
on.  The rule is a word that starts with `@` and lists the two offsets and, for each moment, month,
week, weekday and seconds.  A record whose second word starts with `=` gives another name to the
zone named there.

Main definitions:

* `Zone.Record` — a record read from its words;
* `Zone.Record.ofWords?` — the reading;
* `Zone.Record.zone?` — the zone of a record that is no second name.
-/

import NodeSidecar.Text.Blank
import NodeSidecar.Zone.Rule

set_option autoImplicit false

namespace NodeSidecar.Zone

/-- What is on record for a name. -/
inductive Record where
  /-- Another name of the zone `target`. -/
  | alias (target : String)
  /-- A zone with the offset before all changes, its recorded changes and its rule. -/
  | history (initial : Int) (recorded : List Change) (rule? : Option Rule)

namespace Record

/-- The integer written as digits behind an optional minus sign. -/
def int? : List Char → Option Int
  | '-' :: ds => (Text.ofDigits? ds).map fun n => -(n : Int)
  | ds => (Text.ofDigits? ds).map fun n => (n : Int)

/-- The pieces of a text between commas. -/
def pieces : List Char → List Char → List (List Char)
  | piece, [] => [piece.reverse]
  | piece, c :: cs => if c = ',' then piece.reverse :: pieces [] cs else pieces (c :: piece) cs

/-- The integers of a list separated by commas. -/
def ints? (cs : List Char) : Option (List Int) := (pieces [] cs).mapM int?

/-- The changes written in `cs` after second `last`; `number` holds the characters read of the
current number, backwards. -/
def changes? (offsets : List Int) : Int → List Char → List Char → Option (List Change)
  | _, number, [] => if number.isEmpty then some [] else none
  | last, number, c :: cs =>
    if Text.isLetter c then do
      let gap ← int? number.reverse
      let offset ← offsets[c.toNat - 97]?
      let rest ← changes? offsets (last + gap) [] cs
      return ⟨last + gap, offset⟩ :: rest
    else changes? offsets last (c :: number) cs

/-- The rule written as ten integers. -/
def rule? : List Int → Option Rule
  | [standard, daylight, m, w, d, t, m', w', d', t'] =>
    some ⟨standard, daylight, ⟨m.toNat, w.toNat, d.toNat, t⟩, ⟨m'.toNat, w'.toNat, d'.toNat, t'⟩⟩
  | _ => none

/-- The record written by the words behind its name. -/
def ofWords? : List (List Char) → Option Record
  | ('=' :: target) :: _ => some (.alias (String.ofList target))
  | offsets :: rest => do
    let offsets ← ints? offsets
    let initial ← offsets.head?
    let written := (rest.filter fun w => w.head? != some '@').flatten
    let recorded ← changes? offsets 0 [] written
    match rest.find? fun w => w.head? == some '@' with
    | some w => return .history initial recorded (some (← rule? (← ints? (w.drop 1))))
    | none => return .history initial recorded none
  | [] => none

/-- The zone of a record, under the given name. -/
def zone? (name : String) : Record → Option Zone
  | .alias _ => none
  | .history initial recorded rule? => ofChanges? name initial (extend initial recorded rule?)

end Record

end NodeSidecar.Zone
