/-
**YAML text with its position.**

What is left to read of a text, and where it starts: the number of characters before it, its line
and its column.  Lines end in any of the five line breaks of the format; those that plain text
files use are read as a line feed.

Main definitions:

* `isBreak`, `isBlank`, `isAllowed` — the classes of characters;
* `Source`, `Source.skip`, `Source.readBreak` — the rest of a text, and reading on;
* `Source.atMark` — whether the mark of a document stands at the start of a line;
* `Source.endLine?` — the line after this one, if nothing but a comment is left of this one.
-/

import NodeSidecar.Text.Digits

set_option autoImplicit false

namespace NodeSidecar.Yaml

/-- Whether a character ends a line. -/
def isBreak (c : Char) : Bool :=
  c == '\n' || c == '\r' || c.toNat == 0x85 || c.toNat == 0x2028 || c.toNat == 0x2029

/-- Whether a character is a space or a tab. -/
def isBlank (c : Char) : Bool := c == ' ' || c == '\t'

/-- Whether a character may stand in a text. -/
def isAllowed (c : Char) : Bool :=
  let n := c.toNat
  n == 9 || n == 10 || n == 13 || (0x20 ≤ n && n ≤ 0x7E) || n == 0x85 ||
    (0xA0 ≤ n && n ≤ 0xD7FF) || (0xE000 ≤ n && n ≤ 0xFFFD) || 0x10000 ≤ n

/-- Whether a character may stand in the name of an anchor or of a directive. -/
def isNameChar (c : Char) : Bool := Text.isLetter c || Text.isDigit c || c == '_' || c == '-'

/-- The rest of a text and where it starts. -/
structure Source where
  rest : List Char
  index : Nat := 0
  line : Nat := 0
  column : Nat := 0

namespace Source

/-- The character after `n` others. -/
def peek? (s : Source) (n : Nat) : Option Char := s.rest[n]?

/-- Whether a character comes next. -/
def starts (s : Source) (c : Char) : Bool := s.rest.head? == some c

/-- Whether the text is at its end. -/
def atEnd (s : Source) : Bool := s.rest.isEmpty

/-- Whether a space, a tab, a line break or the end comes after `n` characters. -/
def spaceAt (s : Source) (n : Nat) : Bool :=
  match s.peek? n with
  | none => true
  | some c => isBlank c || isBreak c

/-- Whether a space or a tab comes next. -/
def atBlank (s : Source) : Bool := s.rest.head?.any isBlank

/-- Whether a line break comes next. -/
def atBreak (s : Source) : Bool := s.rest.head?.any isBreak

/-- The text after `n` characters of this line. -/
def skip (s : Source) (n : Nat) : Source :=
  { s with rest := s.rest.drop n, index := s.index + n, column := s.column + n }

/-- The text that goes on with `rest`, which is on this line. -/
def skipTo (s : Source) (rest : List Char) : Source := s.skip (s.rest.length - rest.length)

/-- The characters of this line up to the first that is not in a class, and the text after them. -/
def span (s : Source) (p : Char → Bool) : List Char × Source :=
  let cs := s.rest.takeWhile p
  (cs, s.skip cs.length)

/-- The text after a line break of `n` characters. -/
def nextLine (s : Source) (n : Nat) : Source :=
  ⟨s.rest.drop n, s.index + n, s.line + 1, 0⟩

/-- A line break as it is read, and the text after it; nothing if none comes next. -/
def readBreak (s : Source) : List Char × Source :=
  match s.rest with
  | '\r' :: '\n' :: _ => (['\n'], s.nextLine 2)
  | c :: _ =>
    if c == '\n' || c == '\r' || c.toNat == 0x85 then (['\n'], s.nextLine 1)
    else if isBreak c then ([c], s.nextLine 1)
    else ([], s)
  | [] => ([], s)

/-- The text after a comment, if one comes next. -/
def skipComment (s : Source) : Source :=
  if s.starts '#' then (s.span fun c => !isBreak c).2 else s

/-- The text after blanks, a comment and the end of the line. -/
def endLine? (s : Source) : Option Source :=
  let s := (s.span isBlank).2.skipComment
  if s.atEnd || s.atBreak then some s.readBreak.2 else none

/-- Whether a line starts here with three times a character that stand alone. -/
def atTriple (s : Source) (c : Char) : Bool :=
  s.column == 0 && s.rest.take 3 == [c, c, c] && s.spaceAt 3

/-- Whether a line starts here with the mark of a document. -/
def atMark (s : Source) : Bool := s.atTriple '-' || s.atTriple '.'

end Source

end NodeSidecar.Yaml
