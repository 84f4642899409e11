/-
**Plain scalars.**

A plain scalar is a run of words with gaps between them.  A word ends before a blank, before a
colon that a blank follows and, inside brackets, before a bracket or a comma.

Main definitions:

* `Plain.word?` — the word that comes next;
* `Plain.read?` — the scalar that comes next, and whether it was left in another line.
-/

import NodeSidecar.Yaml.Fold

set_option autoImplicit false

namespace NodeSidecar.Yaml.Plain

/-- Whether a character ends a word inside brackets. -/
def isFlowEnd (c : Char) : Bool :=
  c == ',' || c == '[' || c == ']' || c == '\x7b' || c == '\x7d'

/-- Whether a character may not follow a colon inside brackets. -/
def isFlowClash (c : Char) : Bool := isFlowEnd c || c == '?'

/-- Whether a blank, a line break or the end comes next. -/
def atSpace : List Char → Bool
  | [] => true
  | c :: _ => isBlank c || isBreak c

/-- The word that comes next; none if a colon stands where it may not. -/
def word? (inFlow : Bool) : List Char → Option (List Char)
  | [] => some []
  | c :: cs =>
    if isBlank c || isBreak c then some []
    else if inFlow && c == ':' && cs.head?.any isFlowClash then none
    else if (c == ':' && atSpace cs) || (inFlow && isFlowEnd c) then some []
    else (word? inFlow cs).map (c :: ·)

/-- The scalar that goes on behind `acc` and a gap; in lines after the first it may not start
before the given column. -/
def readFrom (inFlow : Bool) (column : Int) :
    Nat → List Char → Gap → Source → Option (List Char × Gap × Source)
  | 0, acc, gap, s => some (acc, gap, s)
  | fuel + 1, acc, gap, s => do
    if s.atMark || s.starts '#' then return (acc, gap, s)
    let word ← word? inFlow s.rest
    if word.isEmpty then return (acc, gap, s)
    let acc := acc ++ gap.text ++ word
    let (gap, s) ← Gap.read? column (.blanks []) (s.skip word.length)
    if gap = .blanks [] ∨ (!inFlow && decide ((s.column : Int) < column)) then
      return (acc, gap, s)
    readFrom inFlow column fuel acc gap s

/-- The scalar that comes next, whether a line ends behind it, and the text after it. -/
def read? (inFlow : Bool) (column : Int) (s : Source) : Option (String × Bool × Source) := do
  let (acc, gap, s) ← readFrom inFlow column (s.rest.length + 1) [] (.blanks []) s
  return (String.ofList acc, gap.isBroken, s)

end NodeSidecar.Yaml.Plain
