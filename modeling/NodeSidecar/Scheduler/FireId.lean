/-
**Identifiers of fires.**

Each execution of a task has an identifier of 128 bits.  It is written as 32 hexadecimal digits in
five groups; it is read with or without the hyphens, in braces or behind `urn:uuid:` with them, and
in either letter case.

Main definitions:

* `FireId` — the identifier;
* `FireId.text`, `FireId.ofText?` — its text, and the identifier of a text.
-/

import NodeSidecar.Text.Digits

set_option autoImplicit false

namespace NodeSidecar

/-- The identifier of one execution of one task. -/
structure FireId where
  value : Nat
  deriving DecidableEq, Repr, Inhabited

namespace FireId

/-- The sizes of the groups of digits. -/
def groups : List Nat := [8, 4, 4, 4, 12]

/-- Characters cut into groups of the given sizes. -/
def cut : List Nat → List Char → List (List Char)
  | [], _ => []
  | n :: ns, cs => cs.take n :: cut ns (cs.drop n)

/-- The text of an identifier. -/
def text (id : FireId) : String :=
  "-".intercalate ((cut groups (Text.paddedHex 32 id.value).toList).map String.ofList)

/-- The digits of a text in hyphenated form. -/
def ungrouped? : List Nat → List Char → Option (List Char)
  | [], _ => none
  | [n], cs => if cs.length = n then some cs else none
  | n :: ns, cs => do
    let '-' :: rest := cs.drop n | none
    return cs.take n ++ (← ungrouped? ns rest)

/-- The identifier of a text. -/
def ofText? (s : String) : Option FireId := do
  let cs := s.toList
  let digits ←
    match cs.length with
    | 32 => some cs
    | 36 => ungrouped? groups cs
    | 38 =>
      if cs.head? = some '\x7b' ∧ cs.getLast? = some '\x7d' then
        ungrouped? groups ((cs.drop 1).take 36)
      else none
    | 45 =>
      if (cs.take 9).map Char.toLower = "urn:uuid:".toList then ungrouped? groups (cs.drop 9)
      else none
    | _ => none
  return ⟨← Text.ofHexDigits? digits⟩

end FireId

end NodeSidecar
