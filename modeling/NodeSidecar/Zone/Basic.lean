/-
**Time zones.**

A zone is the history of one region's offset from UTC: the offset before all changes, and the
changes with the second from which each new offset holds.  The wall clock of a zone shows the
instant plus the offset in force, so a wall clock time may belong to one instant, to none when the
clock is put forward over it, or to two when the clock is put back over it.

The changes of a zone are in order, and so are the spans between them when they are read off the
wall clock: no span starts or ends there before the one preceding it.  Therefore of two wall clock
times that belong to one instant each, the later belongs to the later instant.

Main definitions:

* `Zone.Change`, `Zone` — a change of offset, and a history with the proof of its order;
* `Zone.offsetAt` — the offset in force at an instant;
* `Zone.secondsOf` — the instants that show a wall clock time;
* `Zone.unique?` — the instant of a wall clock time that belongs to exactly one;
* `Zone.fixed` — a zone that never changes its offset.
-/

import NodeSidecar.Time.Calendar

set_option autoImplicit false

namespace NodeSidecar

namespace Zone

/-- A new offset, in seconds, and the second (in UTC) from which it holds. -/
structure Change where
  second : Int
  offset : Int
  deriving DecidableEq, Repr, Inhabited

/-- Whether the changes are in order, as instants and at both ends of every span on the wall
clock; `before` is the offset in force before the first of them. -/
def inOrder : Int → List Change → Bool
  | before, a :: b :: rest =>
    decide (a.second < b.second) && decide (a.second + before ≤ b.second + a.offset) &&
      decide (a.second + a.offset ≤ b.second + b.offset) && inOrder a.offset (b :: rest)
  | _, _ => true

end Zone

/-- The history of a region's offset from UTC. -/
structure Zone where
  name : String
  initial : Int
  changes : List Zone.Change
  ordered : Zone.inOrder initial changes = true

namespace Zone

/-- The zone with the given history, if it is in order. -/
def ofChanges? (name : String) (initial : Int) (changes : List Change) : Option Zone :=
  if h : inOrder initial changes = true then some ⟨name, initial, changes, h⟩ else none

/-- A zone whose offset never changes. -/
def fixed (name : String) (offset : Int) : Zone := ⟨name, offset, [], rfl⟩

/-- Coordinated universal time. -/
def utc : Zone := fixed "UTC" 0

/-- The offset in force at second `u`, given the changes still ahead and the offset before
them. -/
def offsetFrom (u : Int) : Int → List Change → Int
  | before, [] => before
  | before, c :: cs => if u < c.second then before else offsetFrom u c.offset cs

/-- The offset in force at second `u` (in UTC). -/
def offsetAt (z : Zone) (u : Int) : Int := offsetFrom u z.initial z.changes

/-- What the wall clock shows at second `u` (in UTC), in seconds. -/
def wallClock (z : Zone) (u : Int) : Int := u + z.offsetAt u

/-- The seconds at which the wall clock shows `l`, from second `start` on, given the changes ahead
and the offset in force until the first of them. -/
def secondsFrom (l : Int) : Int → Int → List Change → List Int
  | start, before, [] => if start ≤ l - before then [l - before] else []
  | start, before, c :: cs =>
    if start ≤ l - before ∧ l - before < c.second then
      (l - before) :: secondsFrom l c.second c.offset cs
    else secondsFrom l c.second c.offset cs

/-- The seconds (in UTC) at which the wall clock of the zone shows `l`, in order of the changes. -/
def secondsOf (z : Zone) (l : Int) : List Int := secondsFrom l (l - z.initial) z.initial z.changes

/-- The second at which the wall clock shows `l`, when there is exactly one. -/
def unique? (z : Zone) (l : Int) : Option Int :=
  match z.secondsOf l with
  | [u] => some u
  | _ => none

/-- Whether a date occurs in the zone: its first or its last second does. -/
def hasDay (z : Zone) (day : Int) : Bool :=
  !(z.secondsOf (day * 86400)).isEmpty || !(z.secondsOf (day * 86400 + 86399)).isEmpty

@[simp] theorem offsetAt_fixed (name : String) (o u : Int) : (fixed name o).offsetAt u = o := rfl

@[simp] theorem secondsOf_fixed (name : String) (o l : Int) :
    (fixed name o).secondsOf l = [l - o] := by
  simp [secondsOf, secondsFrom, fixed]

@[simp] theorem unique?_fixed (name : String) (o l : Int) :
    (fixed name o).unique? l = some (l - o) := by
  simp [unique?]

@[simp] theorem hasDay_fixed (name : String) (o d : Int) : (fixed name o).hasDay d = true := by
  simp [hasDay]

end Zone

end NodeSidecar
