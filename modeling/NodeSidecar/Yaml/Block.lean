/-
**Block scalars.**

A block scalar has a header, and lines that are indented more than what it belongs to.  Literal
lines are kept; folded ones are joined where neither starts with a blank.  The line breaks at the
end are dropped, kept, or kept as far as the first.

Main definitions:

* `Block.Chomping`, `Block.header?` — what happens to the end, and the header of a scalar;
* `Block.read?` — the scalar whose indicator comes next.
-/

import NodeSidecar.Yaml.Source

set_option autoImplicit false

namespace NodeSidecar.Yaml.Block

/-- What happens to the line breaks at the end. -/
inductive Chomping where
  | strip
  | clip
  | keep
  deriving DecidableEq, Repr

/-- The sign for the end of a scalar, if one comes next. -/
def chomping (s : Source) : Chomping × Source :=
  if s.starts '+' then (.keep, s.skip 1)
  else if s.starts '-' then (.strip, s.skip 1)
  else (.clip, s)

/-- The digit for the indentation, zero if none comes next; a written zero is refused. -/
def increment? (s : Source) : Option (Nat × Source) :=
  match s.rest.head?.bind Text.digitValue? with
  | none => some (0, s)
  | some 0 => none
  | some n => some (n, s.skip 1)

/-- The header of a scalar: the sign and the digit in either order, and the end of the line. -/
def header? (s : Source) : Option (Chomping × Nat × Source) := do
  let (signed, s₁) := chomping s
  let (n, s₂) ← increment? s₁
  let (chomp, s₃) := if s₁.index = s.index then chomping s₂ else (signed, s₂)
  return (chomp, n, ← s₃.endLine?)

/-- The empty lines that come next, with the greatest indentation met.  An indentation of zero is
not known yet. -/
def breaksFrom (indent : Nat) : Nat → Nat → List Char → Source → Option (Nat × List Char × Source)
  | 0, deepest, breaks, s => some (deepest, breaks, s)
  | fuel + 1, deepest, breaks, s =>
    let spaces := (s.rest.takeWhile (· == ' ')).length
    let s := s.skip (if indent = 0 then spaces else min spaces (indent - s.column))
    let deepest := max deepest s.column
    if (indent = 0 ∨ s.column < indent) ∧ s.starts '\t' then none
    else if s.atBreak then
      let (cs, s) := s.readBreak
      breaksFrom indent fuel deepest (breaks ++ cs) s
    else some (deepest, breaks, s)

/-- The empty lines that come next, and the indentation, which they decide if it is not known;
`least` is the least one allowed. -/
def breaks? (least indent : Nat) (s : Source) : Option (Nat × List Char × Source) := do
  let (deepest, breaks, s) ← breaksFrom indent (s.rest.length + 1) 0 [] s
  return (if indent = 0 then max deepest least else indent, breaks, s)

/-- The lines read so far: their text, the break after the last one, the empty lines after it, and
whether it starts with a blank. -/
structure Lines where
  text : List Char := []
  ending : List Char := []
  empty : List Char := []
  blankStart : Bool := false

/-- The text before the next line. -/
def Lines.joined (ls : Lines) (literal blankNext : Bool) : List Char :=
  let folds := !literal && ls.ending == ['\n'] && !ls.blankStart && !blankNext
  let ending := if !folds then ls.ending else if ls.empty.isEmpty then [' '] else []
  ls.text ++ ending ++ ls.empty

/-- The lines that come next. -/
def linesFrom (literal : Bool) (indent : Nat) : Nat → Lines → Source → Option (Lines × Source)
  | 0, ls, s => some (ls, s)
  | fuel + 1, ls, s =>
    if s.column = indent ∧ s.atEnd = false then do
      let text := ls.joined literal s.atBlank
      let blankStart := s.atBlank
      let (line, s) := s.span fun c => !isBreak c
      let (ending, s) := s.readBreak
      let (_, empty, s) ← breaks? indent indent s
      linesFrom literal indent fuel { text := text ++ line, ending, empty, blankStart } s
    else some (ls, s)

/-- The scalar whose indicator comes next, in a block that is indented by `outer`. -/
def read? (outer : Int) (s : Source) : Option (String × Source) := do
  let literal := s.starts '|'
  let (chomp, n, s) ← header? (s.skip 1)
  let known := if n = 0 then 0 else if 0 ≤ outer then outer.toNat + n else n
  let (indent, empty, s) ← breaks? (max (outer + 1).toNat 1) known s
  let (ls, s) ← linesFrom literal indent (s.rest.length + 1) { empty } s
  let text := match chomp with
    | .strip => ls.text
    | .clip => ls.text ++ ls.ending
    | .keep => ls.text ++ ls.ending ++ ls.empty
  return (String.ofList text, s)

end NodeSidecar.Yaml.Block
