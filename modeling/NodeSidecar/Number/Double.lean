/-
**Binary floating point numbers of double precision.**

A finite number is a sign, a natural number below 2 ^ 53 and a power of two from 2 ^ −1074 to
2 ^ 971.  Quotients of natural numbers are rounded to the nearest such number, a tie to the even
one; what lies beyond the largest becomes infinite.

Main definitions:

* `Double` — finite numbers, the two infinities and the undefined value;
* `Double.ofRatio` — a quotient, rounded;
* `Double.scale` — a number times a power of ten, each operation rounded;
* `Double.ofDecimal` — a decimal, rounded once.
-/

set_option autoImplicit false

namespace NodeSidecar

/-- A number of double precision; a finite one is `mantissa * 2 ^ exponent` with a sign. -/
inductive Double where
  | finite (negative : Bool) (mantissa : Nat) (exponent : Int)
  | infinite (negative : Bool)
  | nan
  deriving DecidableEq, Repr, Inhabited

namespace Double

/-- The least exponent of a finite number. -/
def minExponent : Int := -1074

/-- The greatest exponent of a finite number. -/
def maxExponent : Int := 971

/-- The integer nearest to `n / d`, of two the even one. -/
def roundHalfEven (n d : Nat) : Nat :=
  let q := n / d
  let r := n % d
  if 2 * r < d then q else if d < 2 * r then q + 1 else if q % 2 = 0 then q else q + 1

/-- The finite number `m * 2 ^ q`, or an infinity when that is too large; `m` is at most
2 ^ 53. -/
def pack (negative : Bool) (m : Nat) (q : Int) : Double :=
  let (m, q) := if m = Nat.pow 2 53 then (Nat.pow 2 52, q + 1) else (m, q)
  if m = 0 then .finite negative 0 minExponent
  else if maxExponent < q then .infinite negative else .finite negative m q

/-- The number nearest to `n / d`, for a positive `d`. -/
def ofRatio (negative : Bool) (n d : Nat) : Double :=
  if n = 0 then .finite negative 0 minExponent
  else
    let guess : Int := (n.log2 : Int) - (d.log2 : Int) - 52
    let quotient (q : Int) : Nat × Nat :=
      if 0 ≤ q then (n, d * Nat.pow 2 q.toNat) else (n * Nat.pow 2 (-q).toNat, d)
    let (a, b) := quotient guess
    let exact := if a / b < Nat.pow 2 52 then guess - 1 else guess
    let q := max exact minExponent
    let (a, b) := quotient q
    pack negative (roundHalfEven a b) q

/-- The number nearest to a natural number. -/
def ofNat (negative : Bool) (n : Nat) : Double := ofRatio negative n 1

/-- A finite number as a quotient of natural numbers, its sign left out. -/
def ratio (mantissa : Nat) (exponent : Int) : Nat × Nat :=
  if 0 ≤ exponent then (mantissa * Nat.pow 2 exponent.toNat, 1)
  else (mantissa, Nat.pow 2 (-exponent).toNat)

/-- A number times another, rounded. -/
def mul : Double → Double → Double
  | .finite s m q, .finite s' m' q' =>
    let (n, d) := ratio (m * m') (q + q')
    ofRatio (s != s') n d
  | .infinite s, .finite s' _ _ => .infinite (s != s')
  | .finite s _ _, .infinite s' => .infinite (s != s')
  | .infinite s, .infinite s' => .infinite (s != s')
  | _, _ => .nan

/-- A finite number divided by another that is not zero, rounded. -/
def div : Double → Double → Double
  | .finite s m q, .finite s' m' q' =>
    let (n, d) := ratio m (q - q')
    ofRatio (s != s') n (d * m')
  | .infinite s, .finite s' _ _ => .infinite (s != s')
  | _, _ => .nan

/-- The power of ten nearest to `10 ^ k`. -/
def powerOfTen (k : Nat) : Double := ofNat false (Nat.pow 10 k)

/-- Divides by 10 ^ 308 until the power of ten left to divide by is a number, at most `fuel`
times; after three divisions any 64-bit number has become zero. -/
def divideDown : Nat → Double → Nat → Double
  | 0, x, _ => x
  | fuel + 1, x, k =>
    if k ≤ 308 then div x (powerOfTen k)
    else divideDown fuel (div x (powerOfTen 308)) (k - 308)

/-- The number `n * 10 ^ k`: `n` rounded, then multiplied or divided by the power of ten and
rounded again.  There is none when that is too large. -/
def scale? (negative : Bool) (n : Nat) (k : Int) : Option Double :=
  let x := ofNat negative n
  if k < 0 then some (divideDown 4 x (-k).toNat)
  else if n = 0 then some x
  else if 308 < k then none
  else match mul x (powerOfTen k.toNat) with
    | .infinite _ => none
    | y => some y

/-- The number nearest to `n * 10 ^ k`.  Beyond 400 places it is zero or infinite in any case. -/
def ofDecimal (negative : Bool) (n : Nat) (k : Int) : Double :=
  let size : Int := (Nat.toDigits 10 n).length
  if n = 0 then .finite negative 0 minExponent
  else if 400 < k + size then .infinite negative
  else if k + size < -400 then .finite negative 0 minExponent
  else if 0 ≤ k then ofRatio negative (n * Nat.pow 10 k.toNat) 1
  else ofRatio negative n (Nat.pow 10 (-k).toNat)

end Double

end NodeSidecar
