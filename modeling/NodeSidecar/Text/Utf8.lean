/-
**Texts from bytes.**

A sequence of bytes is a text if it is well-formed UTF-8.  Otherwise the fault tells where the
well-formed part ends and how many bytes after it cannot begin a character, or that the bytes end
within a character.

Main definitions:

* `Utf8Fault`, `Utf8Fault.message` — the fault and its wording;
* `firstChar` — the first character of some bytes;
* `ofUtf8` — the text of some bytes;
* `ofUtf8WithReplacement` — the same with faults replaced;
* `utf8Bytes` — the bytes of a text.
-/

set_option autoImplicit false

namespace NodeSidecar.Text

/-- Where and how bytes fail to be a text. -/
structure Utf8Fault where
  /-- The number of bytes before the fault. -/
  validUpTo : Nat
  /-- The number of bytes at fault; none if the bytes end too early. -/
  length? : Option Nat
  deriving DecidableEq, Repr

/-- The fault in words. -/
def Utf8Fault.message (f : Utf8Fault) : String :=
  match f.length? with
  | some n =>
    "invalid utf-8 sequence of " ++ toString n ++ " bytes from index " ++ toString f.validUpTo
  | none => "incomplete utf-8 byte sequence from index " ++ toString f.validUpTo

/-- The bounds of the byte that follows the first byte of a character. -/
def secondBounds (first : Nat) : Nat × Nat :=
  if first = 0xE0 then (0xA0, 0xBF)
  else if first = 0xED then (0x80, 0x9F)
  else if first = 0xF0 then (0x90, 0xBF)
  else if first = 0xF4 then (0x80, 0x8F)
  else (0x80, 0xBF)

/-- The number of bytes that follow the first byte of a character. -/
def following? (first : Nat) : Option Nat :=
  if first < 0x80 then some 0
  else if first < 0xC2 then none
  else if first < 0xE0 then some 1
  else if first < 0xF0 then some 2
  else if first < 0xF5 then some 3
  else none

/-- The code point built from `acc` by the next `count` bytes, each within the bounds given for the
first of them and else in those of a byte inside a character.  A fault gives the number of bytes
read before it, or none if the bytes end. -/
def codePointFrom (acc read : Nat) (bounds : Nat × Nat) :
    Nat → List UInt8 → Except (Option Nat) (Nat × List UInt8)
  | 0, bytes => .ok (acc, bytes)
  | _ + 1, [] => .error none
  | count + 1, b :: bytes =>
    if bounds.1 ≤ b.toNat ∧ b.toNat ≤ bounds.2 then
      codePointFrom (acc * 64 + (b.toNat - 0x80)) (read + 1) (0x80, 0xBF) count bytes
    else .error (some read)

/-- The first character of some bytes and the bytes after it. -/
def firstChar (first : UInt8) (bytes : List UInt8) : Except (Option Nat) (Char × List UInt8) := do
  match following? first.toNat with
  | none => .error (some 1)
  | some count =>
    let lead := match count with
      | 0 => first.toNat
      | 1 => first.toNat - 0xC0
      | 2 => first.toNat - 0xE0
      | _ => first.toNat - 0xF0
    let (n, rest) ← codePointFrom lead 1 (secondBounds first.toNat) count bytes
    return (Char.ofNat n, rest)

/-- The characters of some bytes of which `index` have been read; `fuel` bounds their number. -/
def charsFrom : Nat → Nat → List UInt8 → Except Utf8Fault (List Char)
  | 0, _, _ => .ok []
  | _, _, [] => .ok []
  | fuel + 1, index, b :: bytes =>
    match firstChar b bytes with
    | .error length? => .error ⟨index, length?⟩
    | .ok (c, rest) => do
      return c :: (← charsFrom fuel (index + 1 + (bytes.length - rest.length)) rest)

/-- The text of some bytes.  A character takes a byte at least. -/
def ofUtf8 (bytes : List UInt8) : Except Utf8Fault String :=
  (charsFrom bytes.length 0 bytes).map String.ofList

/-- The characters of some bytes, each fault replaced by one replacement character. -/
def charsWithReplacement : Nat → List UInt8 → List Char
  | 0, _ => []
  | _, [] => []
  | fuel + 1, b :: bytes =>
    match firstChar b bytes with
    | .ok (c, rest) => c :: charsWithReplacement fuel rest
    | .error none => [Char.ofNat 0xFFFD]
    | .error (some n) => Char.ofNat 0xFFFD :: charsWithReplacement fuel (bytes.drop (n - 1))

/-- The text of some bytes, whatever they are. -/
def ofUtf8WithReplacement (bytes : List UInt8) : String :=
  String.ofList (charsWithReplacement bytes.length bytes)

/-- The bytes of a text. -/
def utf8Bytes (s : String) : List UInt8 := s.toUTF8.toList

end NodeSidecar.Text
