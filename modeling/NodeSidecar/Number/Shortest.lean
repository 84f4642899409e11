/-
**Shortest decimal texts of numbers.**

A finite number is written with the fewest decimal digits that read back as it, and of those with
the ones nearest to it.  Where the decimal point goes is left to a layout: written out in place, or
behind the first digit with a power of ten.

Main definitions:

* `Double.shortest` — the digits, and the place of the decimal point before or among them;
* `Double.Layout` — the decisions of a text format;
* `Double.plainLayout`, `Double.jsonLayout` — the layouts of messages and of JSON;
* `Double.text` — the text of a number.
-/

import NodeSidecar.Number.Double

set_option autoImplicit false

namespace NodeSidecar.Double

/-- The number of places by which the first digit of the positive quotient `n / d` stands before
the decimal point; not positive for zeros behind it. -/
def leadingPlace (n d : Nat) : Int :=
  if d ≤ n then (Nat.toDigits 10 (n / d)).length
  else
    let zeros := ((List.range 340).find? fun j => decide (d ≤ n * Nat.pow 10 (j + 1))).getD 340
    0 - (zeros : Int)

/-- The decimal with `count` digits that lies in the interval `low … high` and is nearest to `n`,
all over `d`; the ends belong to the interval if `closed`. -/
def nearestWith? (n low high d : Nat) (closed : Bool) (place : Int) (count : Nat) : Option Nat :=
  let e := place - count
  let a := if 0 ≤ e then d * Nat.pow 10 e.toNat else d
  let b := if 0 ≤ e then 1 else Nat.pow 10 (-e).toNat
  let inside (c : Nat) : Bool :=
    if closed then decide (low * b ≤ c * a) && decide (c * a ≤ high * b)
    else decide (low * b < c * a) && decide (c * a < high * b)
  let c := n * b / a
  let below := n * b - c * a
  let above := (c + 1) * a - n * b
  match inside c, inside (c + 1) with
  | true, true =>
    if below < above then some c else if above < below then some (c + 1)
    else if c % 2 = 0 then some c else some (c + 1)
  | true, false => some c
  | false, true => some (c + 1)
  | false, false => none

/-- The digits of the shortest decimal that reads back as the positive number `m * 2 ^ q`, and the
place of the decimal point, counted from before the first digit. -/
def shortest (m : Nat) (q : Int) : List Char × Int :=
  let (unit, d) := ratio 1 (q - 2)
  let n := 4 * m * unit
  let low := if m = Nat.pow 2 52 ∧ minExponent < q then (4 * m - 1) * unit else (4 * m - 2) * unit
  let high := (4 * m + 2) * unit
  let place := leadingPlace n d
  let found := (List.range 17).findSome? fun i =>
    (nearestWith? n low high d (m % 2 == 0) place (i + 1)).map fun c => (c, i + 1)
  let (c, count) := found.getD (0, 1)
  let digits := Nat.toDigits 10 c
  let trimmed := (digits.reverse.dropWhile (· == '0')).reverse
  (trimmed, place + digits.length - count)

/-- How a number is laid out: the places of the decimal point for which it is written in place, and
the texts of the values that are not finite. -/
structure Layout where
  inPlace : Int → Bool
  infinity : String
  undefined : String

/-- All digits are written out. -/
def plainLayout : Layout := ⟨fun _ => true, "inf", "NaN"⟩

/-- Digits are written out from 10 ^ −5 up to below 10 ^ 16; what is not finite is null. -/
def jsonLayout : Layout := ⟨fun place => decide (-5 < place) && decide (place ≤ 16), "null", "null"⟩

/-- Digits with the decimal point at `place`, and at least one digit on either side of it. -/
def placed (digits : List Char) (place : Int) : String :=
  if place ≤ 0 then "0." ++ String.ofList (List.replicate (-place).toNat '0' ++ digits)
  else
    let k := place.toNat
    let whole := digits.take k ++ List.replicate (k - digits.length) '0'
    let rest := digits.drop k
    String.ofList whole ++ "." ++ (if rest.isEmpty then "0" else String.ofList rest)

/-- Digits with the decimal point behind the first, and a power of ten. -/
def scientific (digits : List Char) (place : Int) : String :=
  let head := String.ofList (digits.take 1)
  let rest := digits.drop 1
  head ++ (if rest.isEmpty then "" else "." ++ String.ofList rest) ++ "e" ++ toString (place - 1)

/-- The text of a number in a layout. -/
def text (layout : Layout) : Double → String
  | .nan => layout.undefined
  | .infinite negative => (if negative then "-" else "") ++ layout.infinity
  | .finite negative m q =>
    let body :=
      if m = 0 then "0.0"
      else
        let (digits, place) := shortest m q
        if layout.inPlace place then placed digits place else scientific digits place
    (if negative then "-" else "") ++ body

end NodeSidecar.Double
