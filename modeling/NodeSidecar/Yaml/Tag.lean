/-
**Tags and directives.**

A tag is written with a handle and a suffix, or in full between angle brackets.  A directive at the
start of a document gives its version or what a handle stands for.

Main definitions:

* `Tag.read?` — the tag that comes next;
* `Directive`, `Directive.read?` — directives, and the one that comes next.
-/

import NodeSidecar.Text.Utf8
import NodeSidecar.Yaml.Source

set_option autoImplicit false

namespace NodeSidecar.Yaml

namespace Tag

/-- Whether a character may stand in a tag; commas and square brackets may in a whole one. -/
def isTagChar (whole : Bool) (c : Char) : Bool :=
  isNameChar c || ";/?:@&=+$.!~*'()%".toList.contains c || (whole && ",[]".toList.contains c)

/-- The byte that an escape stands for. -/
def escapedByte? : List Char → Option (Nat × List Char)
  | '%' :: a :: b :: cs => (Text.ofHexDigits? [a, b]).map fun n => (n, cs)
  | _ => none

/-- The bytes that continue a character. -/
def continuation? : Nat → List Char → Option (List UInt8 × List Char)
  | 0, cs => some ([], cs)
  | count + 1, cs => do
    let (n, cs) ← escapedByte? cs
    if n / 64 ≠ 2 then none
    let (more, cs) ← continuation? count cs
    return (UInt8.ofNat n :: more, cs)

/-- The character that some escapes stand for. -/
def escapedChar? (cs : List Char) : Option (List Char × List Char) := do
  let (n, rest) ← escapedByte? cs
  let count ←
    if n < 0x80 then some 0
    else if n / 32 = 6 then some 1
    else if n / 16 = 14 then some 2
    else if n / 8 = 30 then some 3
    else none
  let (more, rest) ← continuation? count rest
  return ((Text.ofUtf8WithReplacement (UInt8.ofNat n :: more)).toList, rest)

/-- The characters of a tag that come next, and what follows them. -/
def charsFrom (whole : Bool) : Nat → List Char → Option (List Char × List Char)
  | 0, cs => some ([], cs)
  | _, [] => some ([], [])
  | fuel + 1, c :: cs =>
    if c = '%' then do
      let (chars, rest) ← escapedChar? (c :: cs)
      let (more, rest) ← charsFrom whole fuel rest
      return (chars ++ more, rest)
    else if isTagChar whole c then do
      let (more, rest) ← charsFrom whole fuel cs
      return (c :: more, rest)
    else some ([], c :: cs)

/-- The characters of a tag that come next, and what follows them. -/
def chars? (whole : Bool) (cs : List Char) : Option (List Char × List Char) :=
  charsFrom whole cs.length cs

/-- The handle that comes next, closed or not. -/
def handle? : List Char → Option (List Char × List Char)
  | '!' :: cs =>
    let name := cs.takeWhile isNameChar
    match cs.dropWhile isNameChar with
    | '!' :: rest => some ('!' :: name ++ ['!'], rest)
    | rest => some ('!' :: name, rest)
  | _ => none

/-- Whether a handle is closed. -/
def isClosed (handle : List Char) : Bool := 1 < handle.length && handle.getLast? == some '!'

/-- The handle and the suffix of the tag that comes next, and what follows. -/
def parts? (cs : List Char) : Option (List Char × List Char × List Char) := do
  match cs with
  | '!' :: '<' :: cs =>
    let (suffix, rest) ← chars? true cs
    if suffix.isEmpty then none
    let '>' :: rest := rest | none
    return ([], suffix, rest)
  | _ =>
    let (handle, rest) ← handle? cs
    if isClosed handle then
      let (suffix, rest) ← chars? false rest
      if suffix.isEmpty then none
      return (handle, suffix, rest)
    else
      let (more, rest) ← chars? false rest
      match handle.drop 1 ++ more with
      | [] => return ([], ['!'], rest)
      | suffix => return (['!'], suffix, rest)

/-- The handle and the suffix of the tag that comes next. -/
def read? (inFlow : Bool) (s : Source) : Option (String × String × Source) := do
  let (handle, suffix, rest) ← parts? s.rest
  let s := s.skipTo rest
  if s.spaceAt 0 || (inFlow && s.starts ',') then
    return (String.ofList handle, String.ofList suffix, s)
  else none

end Tag

/-- The directives of a document. -/
inductive Directive where
  | version (major minor : Nat)
  | shorthand (handle meaning : String)
  deriving DecidableEq, Repr

namespace Directive

/-- A number of at most nine digits. -/
def number? (s : Source) : Option (Nat × Source) := do
  let (digits, s) := s.span Text.isDigit
  if 9 < digits.length then none
  return (← Text.ofDigits? digits, s)

/-- The directive that comes next, and the line after it. -/
def read? (s : Source) : Option (Directive × Source) := do
  let (name, s) := (s.skip 1).span isNameChar
  if !s.spaceAt 0 then none
  let s := (s.span isBlank).2
  match String.ofList name with
  | "YAML" =>
    let (major, s) ← number? s
    if !s.starts '.' then none
    let (minor, s) ← number? (s.skip 1)
    return (.version major minor, ← s.endLine?)
  | "TAG" =>
    let (handle, rest) ← Tag.handle? s.rest
    if handle.length ≠ 1 ∧ Tag.isClosed handle = false then none
    let s := s.skipTo rest
    if !s.atBlank then none
    let s := (s.span isBlank).2
    let (meaning, rest) ← Tag.chars? true s.rest
    let s := s.skipTo rest
    if meaning.isEmpty || !s.spaceAt 0 then none
    return (.shorthand (String.ofList handle) (String.ofList meaning), ← s.endLine?)
  | _ => none

end Directive

end NodeSidecar.Yaml
