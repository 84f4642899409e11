/-
**What plain scalars mean.**

A plain scalar is null, a truth value, a number or else a text.  Whole numbers are decimal without
leading zeros, or hexadecimal, octal or binary behind a sign for the base; they fit into 64 bits,
and those that fit into 128 bits only are refused.  All others are of double precision, unless they
are too large.

Main definitions:

* `Scalar.isNull`, `Scalar.bool?`, `Scalar.natural?`, `Scalar.negative?`, `Scalar.real?` — the
  kinds of scalars;
* `Scalar.plain?` — what a plain scalar means;
* `Scalar.value?` — what a scalar means in view of its tag.
-/

import NodeSidecar.Decode.Data
import NodeSidecar.Yaml.Token

set_option autoImplicit false

namespace NodeSidecar.Yaml.Scalar

/-- Whether a scalar is written as null. -/
def isNull (s : String) : Bool := s == "null" || s == "Null" || s == "NULL" || s == "~"

/-- The truth value of a scalar. -/
def bool? (s : String) : Option Bool :=
  if s = "true" ∨ s = "True" ∨ s = "TRUE" then some true
  else if s = "false" ∨ s = "False" ∨ s = "FALSE" then some false
  else none

/-- The characters behind a plus sign, if one is there. -/
def dropPlus : List Char → List Char
  | '+' :: cs => cs
  | cs => cs

/-- Whether a scalar is a number with zeros in front, which is a text. -/
def hasLeadingZeros (cs : List Char) : Bool :=
  match cs with
  | '-' :: '0' :: ds | '+' :: '0' :: ds | '0' :: ds => !ds.isEmpty && ds.all Text.isDigit
  | _ => false

/-- The number of some digits behind a sign for their base. -/
def based? : List Char → Option Nat
  | '0' :: 'x' :: ds => Text.numeral? 16 ds
  | '0' :: 'o' :: ds => Text.numeral? 8 ds
  | '0' :: 'b' :: ds => Text.numeral? 2 ds
  | _ => none

/-- The whole number up to a limit that a scalar without a minus sign is. -/
def natural? (limit : Nat) (s : String) : Option Nat :=
  let cs := s.toList
  let n? := match based? (dropPlus cs) with
    | some n => some n
    | none => if hasLeadingZeros cs then none else Text.ofDigits? (dropPlus cs)
  n?.filter fun n => n ≤ limit

/-- The size, up to a limit, of the whole number that a scalar with a minus sign is. -/
def negative? (limit : Nat) (s : String) : Option Nat :=
  match s.toList with
  | '-' :: cs =>
    let n? := match based? cs with
      | some n => some n
      | none => if hasLeadingZeros ('-' :: cs) then none else Text.ofDigits? cs
    n?.filter fun n => n ≤ limit
  | _ => none

/-- The exponent that comes next, zero if no sign for one does; nothing may follow it. -/
def exponent? : List Char → Option Int
  | [] => some 0
  | c :: cs =>
    if c = 'e' ∨ c = 'E' then
      match cs with
      | '-' :: ds => (Text.ofDigits? ds).map fun n => -(n : Int)
      | '+' :: ds => (Text.ofDigits? ds).map fun n => (n : Int)
      | ds => (Text.ofDigits? ds).map fun n => (n : Int)
    else none

/-- The number nearest to a decimal behind its sign; it has a digit before its exponent. -/
def decimal? (negative : Bool) (cs : List Char) : Option Double := do
  let whole := cs.takeWhile Text.isDigit
  let (places, rest) := match cs.dropWhile Text.isDigit with
    | '.' :: rest => (rest.takeWhile Text.isDigit, rest.dropWhile Text.isDigit)
    | rest => ([], rest)
  let n ← Text.ofDigits? (whole ++ places)
  let e ← exponent? rest
  match Double.ofDecimal negative n (e - (places.length : Int)) with
  | .finite s m q => some (.finite s m q)
  | _ => none

/-- The number of double precision that a scalar is. -/
def real? (s : String) : Option Double :=
  let infinities := [".inf", ".Inf", ".INF"]
  if infinities.contains s || (infinities.map ("+" ++ ·)).contains s then some (.infinite false)
  else if (infinities.map ("-" ++ ·)).contains s then some (.infinite true)
  else if [".nan", ".NaN", ".NAN"].contains s then some .nan
  else
    match s.toList with
    | '-' :: cs => decimal? true cs
    | '+' :: cs => decimal? false cs
    | cs => decimal? false cs

/-- What a scalar is as a whole number: a value, none if it is not one or, as a failure, one that
fits into 128 bits only. -/
def int? (s : String) : Except Unit (Option Int) :=
  match natural? (UInt64.size - 1) s with
  | some n => .ok (some n)
  | none =>
    match negative? (UInt64.size / 2) s with
    | some n => .ok (some (-(n : Int)))
    | none =>
      let huge := (natural? (Nat.pow 2 128 - 1) s).isSome || (negative? (Nat.pow 2 127) s).isSome
      if huge then .error () else .ok none

/-- What a plain scalar means. -/
def plain? (s : String) : Option Data :=
  if s = "" ∨ isNull s then some .null
  else
    match bool? s with
    | some b => some (.bool b)
    | none =>
      match int? s with
      | .error _ => none
      | .ok (some n) => some (.int n)
      | .ok none =>
        if hasLeadingZeros s.toList then some (.text s)
        else
          match real? s with
          | some x => some (.real x)
          | none => some (.text s)

/-- The tag of a standard kind. -/
def standardTag (kind : String) : String := "tag:yaml.org,2002:" ++ kind

/-- The name that a tag of its own gives to a value. -/
def ownTag? (tag? : Option String) : Option String :=
  tag?.bind fun tag => if tag.startsWith "!" then some (String.ofList (tag.toList.drop 1)) else none

/-- What a scalar means in view of its tag; a tag of its own leaves a plain scalar as it is. -/
def value? (tag? : Option String) (style : Style) (s : String) : Option Data :=
  let untagged : Option Data := if style = .plain then plain? s else some (.text s)
  match tag? with
  | none => untagged
  | some tag =>
    if tag = standardTag "bool" then (bool? s).map .bool
    else if tag = standardTag "int" then ((int? s).toOption.bind id).map .int
    else if tag = standardTag "float" then (real? s).map .real
    else if tag = standardTag "null" then (if isNull s then some .null else none)
    else if tag.startsWith "!" then untagged
    else some (.text s)

end NodeSidecar.Yaml.Scalar
