/-
**Instants.**

An instant counts nanoseconds from 1970-01-01T00:00:00Z.  The representable instants form one
interval, from the year −262143 to the year 262142; sums that leave it are refused.

Main definitions:

* `Instant` — a count of nanoseconds with the proof that it is representable;
* `Instant.ofNanos?`, `Instant.ofSecond?` — the checked constructors;
* `Instant.shift?` — an instant moved by a signed number of nanoseconds;
* `Instant.second`, `Instant.fraction` — the second an instant falls in, and its offset there.
-/

import NodeSidecar.Time.Duration

set_option autoImplicit false

namespace NodeSidecar

/-- A point of the time line, in nanoseconds from the start of 1970 in UTC. -/
structure Instant where
  nanos : Int
  lower : -8334601228800 * 1000000000 ≤ nanos
  upper : nanos < 8210266876800 * 1000000000

namespace Instant

/-- The nanoseconds of the first representable instant. -/
abbrev minNanos : Int := -8334601228800 * 1000000000

/-- The nanoseconds of the last representable instant. -/
abbrev maxNanos : Int := 8210266876800 * 1000000000 - 1

/-- Instants are equal when their counts are. -/
theorem eq_of_nanos_eq {a b : Instant} (h : a.nanos = b.nanos) : a = b := by
  cases a; cases b; simp_all

instance : DecidableEq Instant := fun a b =>
  if h : a.nanos = b.nanos then isTrue (eq_of_nanos_eq h)
  else isFalse fun e => h (congrArg nanos e)

instance : LT Instant := ⟨fun a b => a.nanos < b.nanos⟩

instance : LE Instant := ⟨fun a b => a.nanos ≤ b.nanos⟩

instance (a b : Instant) : Decidable (a < b) := inferInstanceAs (Decidable (a.nanos < b.nanos))

instance (a b : Instant) : Decidable (a ≤ b) := inferInstanceAs (Decidable (a.nanos ≤ b.nanos))

theorem lt_iff (a b : Instant) : a < b ↔ a.nanos < b.nanos := Iff.rfl

theorem le_iff (a b : Instant) : a ≤ b ↔ a.nanos ≤ b.nanos := Iff.rfl

/-- The instant `n` nanoseconds after the start of 1970, if it is representable. -/
def ofNanos? (n : Int) : Option Instant :=
  if h : minNanos ≤ n ∧ n < 8210266876800 * 1000000000 then some ⟨n, h.1, h.2⟩ else none

@[simp] theorem ofNanos?_nanos (i : Instant) : ofNanos? i.nanos = some i :=
  dif_pos ⟨i.lower, i.upper⟩

theorem nanos_of_ofNanos? {n : Int} {i : Instant} (h : ofNanos? n = some i) : i.nanos = n := by
  unfold ofNanos? at h
  split at h
  · exact (Option.some.inj h) ▸ rfl
  · cases h

/-- The instant at the start of the given second. -/
def ofSecond? (s : Int) : Option Instant := ofNanos? (s * 1000000000)

/-- The start of 1970. -/
def epoch : Instant := ⟨0, by decide, by decide⟩

instance : Inhabited Instant := ⟨epoch⟩

/-- The instant `n` nanoseconds later, if it is representable. -/
def shift? (i : Instant) (n : Int) : Option Instant := ofNanos? (i.nanos + n)

theorem nanos_of_shift? {i j : Instant} {n : Int} (h : i.shift? n = some j) :
    j.nanos = i.nanos + n := nanos_of_ofNanos? h

/-- The second that an instant falls in. -/
def second (i : Instant) : Int := i.nanos / 1000000000

/-- The nanoseconds of an instant since the start of its second. -/
def fraction (i : Instant) : Nat := (i.nanos % 1000000000).toNat

end Instant

end NodeSidecar
