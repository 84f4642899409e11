/-
**Instants in RFC 3339 form.**

An instant is written in UTC with the mark `Z`.  The fraction of the second has 3, 6 or 9 digits,
the fewest that are exact, and is left out when it is zero; a year outside 0 to 9999 carries its
sign.
-/

import NodeSidecar.Time.Calendar

set_option autoImplicit false

namespace NodeSidecar.Instant

/-- The text of a year: four digits, or at least four behind a sign. -/
def yearText (year : Int) : String :=
  if 0 ≤ year ∧ year ≤ 9999 then Text.padded 4 year.toNat
  else (if year < 0 then "-" else "+") ++ Text.padded 4 year.natAbs

/-- The fraction of a second, with its point, in the fewest of 0, 3, 6 or 9 places. -/
def fractionText (nanos : Nat) : String :=
  if nanos = 0 then ""
  else if nanos % 1000000 = 0 then "." ++ Text.padded 3 (nanos / 1000000)
  else if nanos % 1000 = 0 then "." ++ Text.padded 6 (nanos / 1000)
  else "." ++ Text.padded 9 nanos

/-- The RFC 3339 text of an instant, in UTC. -/
def rfc3339 (i : Instant) : String :=
  let t := LocalTime.ofSeconds i.second
  let two := Text.padded 2
  yearText t.date.year ++ "-" ++ two t.date.month ++ "-" ++ two t.date.day ++ "T" ++
    two t.time.hour ++ ":" ++ two t.time.minute ++ ":" ++ two t.time.second ++
    fractionText i.fraction ++ "Z"

end NodeSidecar.Instant
