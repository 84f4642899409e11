/-
**Lengths of time.**

A duration is a whole number of nanoseconds.  Its text uses the largest of the units `s`, `ms`,
`µs` and `ns` that does not exceed it, and as many decimal places as it takes to be exact.

Main definitions:

* `Duration` — the type, with the constructors `ofSeconds`, `ofMillis` and `ofParts`;
* `Duration.seconds`, `Duration.subsecond` — the whole seconds and the nanoseconds left over;
* `Duration.wholeMillis` — the whole milliseconds;
* `Duration.text` — the exact text, such as `1.5s` or `250ms`.
-/

import NodeSidecar.Text.Digits

set_option autoImplicit false

namespace NodeSidecar

/-- The number of nanoseconds in a second. -/
abbrev nanosPerSecond : Nat := 1000000000

/-- A length of time in whole nanoseconds. -/
structure Duration where
  nanos : Nat
  deriving DecidableEq, Repr, Inhabited

namespace Duration

/-- The duration of `s` seconds and `n` nanoseconds. -/
def ofParts (s n : Nat) : Duration := ⟨s * nanosPerSecond + n⟩

/-- The duration of `s` seconds. -/
def ofSeconds (s : Nat) : Duration := ofParts s 0

/-- The duration of `ms` milliseconds. -/
def ofMillis (ms : Nat) : Duration := ⟨ms * 1000000⟩

/-- The whole seconds of a duration. -/
def seconds (d : Duration) : Nat := d.nanos / nanosPerSecond

/-- The nanoseconds of a duration beyond its whole seconds. -/
def subsecond (d : Duration) : Nat := d.nanos % nanosPerSecond

/-- The whole milliseconds of a duration. -/
def wholeMillis (d : Duration) : Nat := d.nanos / 1000000

@[simp] theorem nanos_ofParts (s n : Nat) : (ofParts s n).nanos = s * nanosPerSecond + n := rfl

@[simp] theorem nanos_ofSeconds (s : Nat) : (ofSeconds s).nanos = s * nanosPerSecond :=
  Nat.add_zero _

@[simp] theorem nanos_ofMillis (ms : Nat) : (ofMillis ms).nanos = ms * 1000000 := rfl

theorem seconds_ofParts {s n : Nat} (h : n < nanosPerSecond) : (ofParts s n).seconds = s := by
  simp only [seconds, ofParts, nanosPerSecond] at *
  omega

@[simp] theorem seconds_ofSeconds (s : Nat) : (ofSeconds s).seconds = s :=
  seconds_ofParts (by decide)

/-- Digits without the zeros at their end. -/
def trimZeros (ds : List Char) : List Char := (ds.reverse.dropWhile (· == '0')).reverse

/-- The exact decimal text of `n / 10 ^ places`, without zeros at the end of its fraction. -/
def decimalText (n places : Nat) : String :=
  let fraction := trimZeros (Text.padded places (n % Nat.pow 10 places)).toList
  let whole := toString (n / Nat.pow 10 places)
  if fraction.isEmpty then whole else whole ++ "." ++ String.ofList fraction

/-- The exact text of a duration, in the largest unit that does not exceed it. -/
def text (d : Duration) : String :=
  if nanosPerSecond ≤ d.nanos then decimalText d.nanos 9 ++ "s"
  else if 1000000 ≤ d.nanos then decimalText d.nanos 6 ++ "ms"
  else if 1000 ≤ d.nanos then decimalText d.nanos 3 ++ "µs"
  else decimalText d.nanos 0 ++ "ns"

end Duration

end NodeSidecar
