/-
**Reading JSON text.**

The reader takes one value with blanks around it.  A number without fraction and exponent is an
integer if it fits into 64 bits, unsigned or signed; every other number is of double precision,
its significant digits as far as they fit into 64 bits times a power of ten.

Main definitions:

* `Json.number?` — a number at the start of a text;
* `Json.string?` — a string, its escapes resolved;
* `Json.read?` — the value of a whole text.
-/

import NodeSidecar.Json.Basic
import NodeSidecar.Text.Digits

set_option autoImplicit false

namespace NodeSidecar.Json

/-- Drops the blanks of JSON. -/
def skipBlanks (cs : List Char) : List Char :=
  cs.dropWhile fun c => c == ' ' || c == '\n' || c == '\t' || c == '\r'

/-- The greatest number of 64 bits. -/
def maxWord : Nat := UInt64.size - 1

/-- The leading digits of `ds` as far as their number stays within 64 bits, that number, and how
many digits are left over. -/
def significand : Nat → List Char → Nat × List Char
  | acc, [] => (acc, [])
  | acc, d :: ds =>
    let next := acc * 10 + (d.toNat - 48)
    if next ≤ maxWord then significand next ds else (acc, d :: ds)

/-- The exponent at the start of `cs`, if the mark for one stands there. -/
def exponent? : List Char → Option (Int × List Char)
  | c :: cs =>
    if c = 'e' ∨ c = 'E' then
      let (negative, cs) := match cs with
        | '-' :: cs => (true, cs)
        | '+' :: cs => (false, cs)
        | cs => (false, cs)
      (Text.ofDigits? (cs.takeWhile Text.isDigit)).map fun n =>
        ((if negative then -(n : Int) else n), cs.dropWhile Text.isDigit)
    else some (0, c :: cs)
  | [] => some (0, [])

/-- The number at the start of `cs`, behind its sign. -/
def unsigned? (negative : Bool) (cs : List Char) : Option (Json × List Char) := do
  let whole := cs.takeWhile Text.isDigit
  let rest := cs.dropWhile Text.isDigit
  if whole.isEmpty ∨ (whole.head? = some '0' ∧ 1 < whole.length) then none
  let (n, dropped) := significand 0 whole
  match rest with
  | '.' :: rest =>
    let places := rest.takeWhile Text.isDigit
    if places.isEmpty then none
    let (n, unused) := if dropped.isEmpty then significand n places else (n, places)
    let scale : Int := (dropped.length : Int) - ((places.length - unused.length : Nat) : Int)
    let (e, rest) ← exponent? (rest.dropWhile Text.isDigit)
    return (.real (← Double.scale? negative n (scale + e)), rest)
  | rest =>
    match rest with
    | c :: _ =>
      if c = 'e' ∨ c = 'E' then
        let (e, rest) ← exponent? rest
        return (.real (← Double.scale? negative n ((dropped.length : Int) + e)), rest)
    | [] => pure ()
    if !dropped.isEmpty then
      return (.real (← Double.scale? negative n dropped.length), rest)
    else if !negative then return (.int n, rest)
    else if n = 0 ∨ UInt64.size / 2 < n then return (.real (Double.ofNat true n), rest)
    else return (.int (-(n : Int)), rest)

/-- The number at the start of `cs`. -/
def number? : List Char → Option (Json × List Char)
  | '-' :: cs => unsigned? true cs
  | cs => unsigned? false cs

/-- The four hexadecimal digits at the start of `cs` as a number. -/
def unit16? : List Char → Option (Nat × List Char)
  | a :: b :: c :: d :: cs => (Text.ofHexDigits? [a, b, c, d]).map fun n => (n, cs)
  | _ => none

/-- The character of an escape, given the characters behind its backslash. -/
def escape? : List Char → Option (Char × List Char)
  | 'n' :: cs => some ('\n', cs)
  | 't' :: cs => some ('\t', cs)
  | 'r' :: cs => some ('\r', cs)
  | 'b' :: cs => some (Char.ofNat 8, cs)
  | 'f' :: cs => some (Char.ofNat 12, cs)
  | '"' :: cs => some ('"', cs)
  | '\\' :: cs => some ('\\', cs)
  | '/' :: cs => some ('/', cs)
  | 'u' :: cs => do
    let (a, cs) ← unit16? cs
    if 0xD800 ≤ a ∧ a < 0xDC00 then
      match cs with
      | '\\' :: 'u' :: cs =>
        let (b, cs) ← unit16? cs
        if 0xDC00 ≤ b ∧ b < 0xE000 then
          some (Char.ofNat (0x10000 + (a - 0xD800) * 0x400 + (b - 0xDC00)), cs)
        else none
      | _ => none
    else if 0xDC00 ≤ a ∧ a < 0xE000 then none
    else some (Char.ofNat a, cs)
  | _ => none

/-- The rest of a string up to its closing mark; `acc` holds the characters before, backwards. -/
def stringFrom : Nat → List Char → List Char → Option (String × List Char)
  | 0, _, _ => none
  | _, _, [] => none
  | fuel + 1, acc, c :: cs =>
    if c = '"' then some (String.ofList acc.reverse, cs)
    else if c = '\\' then do
      let (d, cs) ← escape? cs
      stringFrom fuel (d :: acc) cs
    else if c.toNat < 32 then none
    else stringFrom fuel (c :: acc) cs

/-- The string whose opening mark has been read. -/
def string? (cs : List Char) : Option (String × List Char) := stringFrom (cs.length + 1) [] cs

/-- The characters behind a word, if the text starts with it. -/
def after? (word : String) (cs : List Char) : Option (List Char) :=
  if word.toList.isPrefixOf cs then some (cs.drop word.length) else none

mutual

/-- The value at the start of `cs`, blanks before it dropped. -/
def valueFrom? : Nat → List Char → Option (Json × List Char)
  | 0, _ => none
  | fuel + 1, cs =>
    match skipBlanks cs with
    | '"' :: cs => (string? cs).map fun (s, cs) => (.str s, cs)
    | '[' :: cs =>
      match skipBlanks cs with
      | ']' :: cs => some (.arr [], cs)
      | cs => (elementsFrom? fuel cs).map fun (xs, cs) => (.arr xs, cs)
    | '\x7b' :: cs =>
      match skipBlanks cs with
      | '\x7d' :: cs => some (.obj [], cs)
      | cs => (membersFrom? fuel cs).map fun (ms, cs) => (object ms, cs)
    | 't' :: cs => (after? "rue" cs).map fun cs => (.bool true, cs)
    | 'f' :: cs => (after? "alse" cs).map fun cs => (.bool false, cs)
    | 'n' :: cs => (after? "ull" cs).map fun cs => (.null, cs)
    | cs => number? cs

/-- The elements of an array up to its end. -/
def elementsFrom? : Nat → List Char → Option (List Json × List Char)
  | 0, _ => none
  | fuel + 1, cs => do
    let (x, cs) ← valueFrom? fuel cs
    match skipBlanks cs with
    | ',' :: cs =>
      let (xs, cs) ← elementsFrom? fuel cs
      return (x :: xs, cs)
    | ']' :: cs => return ([x], cs)
    | _ => none

/-- The members of an object up to its end. -/
def membersFrom? : Nat → List Char → Option (List (String × Json) × List Char)
  | 0, _ => none
  | fuel + 1, cs => do
    let '"' :: cs := skipBlanks cs | none
    let (name, cs) ← string? cs
    let ':' :: cs := skipBlanks cs | none
    let (v, cs) ← valueFrom? fuel cs
    match skipBlanks cs with
    | ',' :: cs =>
      let (ms, cs) ← membersFrom? fuel cs
      return ((name, v) :: ms, cs)
    | '\x7d' :: cs => return ([(name, v)], cs)
    | _ => none

end

/-- The value of a text.  Each call of a reader within another follows a character read, so twice
the length of the text bounds their depth. -/
def read? (s : String) : Option Json := do
  let cs := s.toList
  let (v, rest) ← valueFrom? (2 * cs.length + 2) cs
  if (skipBlanks rest).isEmpty then some v else none

end NodeSidecar.Json
