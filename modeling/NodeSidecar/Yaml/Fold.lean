/-
**Gaps between words.**

Blanks inside a line of a scalar are kept.  Where a scalar goes on in another line, blanks around
the line break go, a single break becomes a space and of several all but the first are kept.

Main definitions:

* `Gap`, `Gap.text` — what stands between two words, and what is kept of it;
* `Gap.read?` — the gap that comes next.
-/

import NodeSidecar.Yaml.Source

set_option autoImplicit false

namespace NodeSidecar.Yaml

/-- What stands between two words. -/
inductive Gap where
  /-- Blanks inside a line. -/
  | blanks (cs : List Char)
  /-- A line break, none if it was escaped, and the breaks after it. -/
  | breaks (first? : Option Char) (more : List Char)
  deriving DecidableEq, Repr

namespace Gap

/-- What is kept of a gap. -/
def text : Gap → List Char
  | blanks cs => cs
  | breaks (some '\n') [] => [' ']
  | breaks (some '\n') more => more
  | breaks first? more => first?.toList ++ more

/-- Whether a gap ends a line. -/
def isBroken : Gap → Bool
  | blanks _ => false
  | breaks _ _ => true

/-- A gap followed by a line break. -/
def addBreak (gap : Gap) (cs : List Char) : Gap :=
  match gap with
  | blanks _ => breaks cs.head? []
  | breaks first? more => breaks first? (more ++ cs)

/-- The gap that goes on with what comes next.  After a line break a tab may not stand before the
given column. -/
def readFrom (column : Int) : Nat → Gap → Source → Option (Gap × Source)
  | 0, gap, s => some (gap, s)
  | fuel + 1, gap, s =>
    if s.atBreak then
      let (cs, s) := s.readBreak
      readFrom column fuel (gap.addBreak cs) s
    else
      match s.rest with
      | [] => some (gap, s)
      | c :: _ =>
        if isBlank c then
          match gap with
          | blanks cs => readFrom column fuel (.blanks (cs ++ [c])) (s.skip 1)
          | breaks first? more =>
            if c = '\t' ∧ (s.column : Int) < column then none
            else readFrom column fuel (.breaks first? more) (s.skip 1)
        else some (gap, s)

/-- The gap that goes on with what comes next. -/
def read? (column : Int) (gap : Gap) (s : Source) : Option (Gap × Source) :=
  readFrom column (s.rest.length + 1) gap s

end Gap

end NodeSidecar.Yaml
