/-
**Numerals.**

Reading a text of ASCII digits as a natural number, in base ten and in the bases of escapes, and
writing a number with a fixed count of places.

Main definitions:

* `ofDigits?` — the number a nonempty run of decimal digits denotes;
* `ofHexDigits?` — the same in base sixteen;
* `padded` — decimal digits with leading zeros up to a width;
* `hex` — lower-case hexadecimal digits.
-/

set_option autoImplicit false

namespace NodeSidecar.Text

/-- The value of an ASCII decimal digit. -/
def digitValue? (c : Char) : Option Nat :=
  if '0' ≤ c && c ≤ '9' then some (c.toNat - 48) else none

/-- The value of an ASCII hexadecimal digit of either case. -/
def hexValue? (c : Char) : Option Nat :=
  if '0' ≤ c && c ≤ '9' then some (c.toNat - 48)
  else if 'a' ≤ c && c ≤ 'f' then some (c.toNat - 87)
  else if 'A' ≤ c && c ≤ 'F' then some (c.toNat - 55)
  else none

/-- Whether a character is an ASCII decimal digit. -/
def isDigit (c : Char) : Bool := '0' ≤ c && c ≤ '9'

/-- Whether a character is an ASCII letter. -/
def isLetter (c : Char) : Bool := ('a' ≤ c && c ≤ 'z') || ('A' ≤ c && c ≤ 'Z')

/-- The number denoted by `cs` read after the digits of `acc`, each digit valued by `value?`. -/
def numeralFrom (base : Nat) (value? : Char → Option Nat) : Nat → List Char → Option Nat
  | acc, [] => some acc
  | acc, c :: cs =>
    match value? c with
    | some d => if d < base then numeralFrom base value? (acc * base + d) cs else none
    | none => none

/-- The number denoted by a nonempty run of digits of the given base, at most sixteen. -/
def numeral? (base : Nat) (cs : List Char) : Option Nat :=
  if cs.isEmpty then none else numeralFrom base hexValue? 0 cs

/-- The number denoted by a nonempty run of decimal digits. -/
def ofDigits? (cs : List Char) : Option Nat := numeral? 10 cs

/-- The number denoted by a nonempty run of hexadecimal digits. -/
def ofHexDigits? (cs : List Char) : Option Nat := numeral? 16 cs

/-- The decimal digits of a number, most significant first. -/
def digits (n : Nat) : List Char := Nat.toDigits 10 n

/-- The decimal digits of `n` behind as many zeros as make `width` places. -/
def padded (width n : Nat) : String :=
  let ds := digits n
  String.ofList (List.replicate (width - ds.length) '0' ++ ds)

/-- The lower-case hexadecimal digits of a number. -/
def hex (n : Nat) : String := String.ofList (Nat.toDigits 16 n)

/-- The lower-case hexadecimal digits of a number, with leading zeros up to `width` places. -/
def paddedHex (width n : Nat) : String :=
  let ds := Nat.toDigits 16 n
  String.ofList (List.replicate (width - ds.length) '0' ++ ds)

end NodeSidecar.Text
