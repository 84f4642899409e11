/-
**Operations that take turns.**

Operations on one provider may be under way at the same time.  Each request is atomic, and so are
the opening and the release of a client; between them any other operation may go on.  A schedule
says whose turn it is, and an operation whose turns come one after another ends as it does alone.

Main definitions:

* `Progress` — how far an operation is;
* `Progress.turn`, `Progress.turns` — its next turn, which is the opening of its client, a request,
  or the release, and its next turns;
* `Progress.giveUp` — an operation that is given up where it is;
* `takeTurns` — several operations, taking turns by a schedule.

Main results:

* `Progress.run_turn` — **a turn does not change how an operation ends alone**;
* `getElem?_takeTurn_self`, `getElem?_takeTurn_of_ne` — a turn is one operation's own.
-/

import NodeSidecar.Membership.Operation

set_option autoImplicit false

namespace NodeSidecar

/-- **How far an operation is**: it has not begun, it has a client and a plan for it, or it is at
its end. -/
inductive Progress (α : Type) where
  | waiting (op : Operation α)
  | working (lease : Lease) (plan : Plan (Except MembershipError α)) (success : List LogLine)
  | ended (result : Except MembershipError α)

namespace Progress

variable {α : Type}

/-- The provider after the release of a client with the reports that follow a success. -/
def close (lease : Lease) (result : Except MembershipError α) (success : List LogLine)
    (c : Cloud) : Cloud :=
  let c := c.finish lease (succeeded result)
  if succeeded result then success.foldl Cloud.report c else c

/-- **One turn of an operation**, and the provider after it. -/
def turn : Progress α → Cloud → Progress α × Cloud
  | waiting (.settled a), c => (ended (.ok a), c)
  | waiting (.leased endpoint plan success), c =>
    match c.open endpoint with
    | (.error e, c) => (ended (.error (.cloud e)), c)
    | (.ok lease, c) => (working lease plan success, c)
  | working lease plan success, c =>
    match plan with
    | .done result => (ended result, close lease result success c)
    | plan => let (plan, c) := plan.step c; (working lease plan success, c)
  | ended result, c => (ended result, c)

/-- A number of turns, one after another. -/
def turns : Nat → Progress α → Cloud → Progress α × Cloud
  | 0, p, c => (p, c)
  | n + 1, p, c => turns n (p.turn c).1 (p.turn c).2

/-- An operation that is given up, with its result if it was at its end; a lease that it holds is
dropped. -/
def giveUp : Progress α → Cloud → Option (Except MembershipError α) × Cloud
  | waiting _, c => (none, c)
  | working lease _ _, c => (none, c.drop lease)
  | ended result, c => (some result, c)

/-- The rest of an operation, run without the others. -/
def run : Progress α → Cloud → Except MembershipError α × Cloud
  | waiting op, c => op.run c
  | working lease plan success, c =>
    let (result, c) := plan.run c
    (result, close lease result success c)
  | ended result, c => (result, c)

/-- **A turn does not change how an operation ends alone.** -/
theorem run_turn (p : Progress α) (c : Cloud) : (p.turn c).1.run (p.turn c).2 = p.run c := by
  cases p with
  | waiting op =>
      cases op with
      | settled a => rfl
      | leased endpoint plan success =>
          rw [turn, run, Operation.run]
          rcases c.open endpoint with ⟨e | lease, c'⟩
          · rfl
          · rfl
  | working lease plan success =>
      cases plan with
      | done result => rfl
      | report line next => rfl
      | describeGroups names next => rfl
      | updateGroup update next => rfl
      | changeIngress change group rule next => rfl
      | describeSecurityGroups names next => rfl
  | ended result => rfl

/-- An operation that has had a turn has begun. -/
theorem turn_ne_waiting (p : Progress α) (op : Operation α) (c : Cloud) :
    (p.turn c).1 ≠ .waiting op := by
  cases p with
  | waiting op' =>
      cases op' with
      | settled a => simp [turn]
      | leased endpoint plan success =>
          rw [turn]
          rcases c.open endpoint with ⟨e | lease, c'⟩
          · simp
          · simp
  | working lease plan success => cases plan <;> simp [turn]
  | ended result => simp [turn]

theorem turns_succ_ne_waiting (n : Nat) (p : Progress α) (op : Operation α) (c : Cloud) :
    (turns (n + 1) p c).1 ≠ .waiting op := by
  induction n generalizing p c with
  | zero => exact p.turn_ne_waiting op c
  | succ n ih => exact ih (p.turn c).1 (p.turn c).2

/-- The turn of an operation that changes permissions next. -/
theorem turn_changeIngress (lease : Lease) (change : IngressChange) (group : String)
    (rule : IngressRule) (next : Except CloudError Unit → Plan (Except MembershipError α))
    (success : List LogLine) (c : Cloud) :
    (working lease (.changeIngress change group rule next) success).turn c =
      (working lease (next (c.changeIngress change group rule).1) success,
        (c.changeIngress change group rule).2) := rfl

end Progress

/-! ### Schedules -/

variable {α : Type}

/-- The turn of one of several operations. -/
def takeTurn (i : Nat) (pool : List (Progress α)) (c : Cloud) : List (Progress α) × Cloud :=
  match pool[i]? with
  | none => (pool, c)
  | some p => (pool.set i (p.turn c).1, (p.turn c).2)

/-- **Several operations taking turns**, in the order of a schedule. -/
def takeTurns : List Nat → List (Progress α) → Cloud → List (Progress α) × Cloud
  | [], pool, c => (pool, c)
  | i :: schedule, pool, c =>
    takeTurns schedule (takeTurn i pool c).1 (takeTurn i pool c).2

variable {i j : Nat} {pool : List (Progress α)} {p : Progress α} {c : Cloud}

/-- The last turn of a schedule comes after the others. -/
theorem takeTurns_concat (done : List Nat) (i : Nat) (pool : List (Progress α)) (c : Cloud) :
    takeTurns (done ++ [i]) pool c =
      takeTurn i (takeTurns done pool c).1 (takeTurns done pool c).2 := by
  induction done generalizing pool c with
  | nil => rfl
  | cons j done ih => exact ih (takeTurn j pool c).1 (takeTurn j pool c).2

theorem length_takeTurn (i : Nat) (pool : List (Progress α)) (c : Cloud) :
    (takeTurn i pool c).1.length = pool.length := by
  cases h : pool[i]? with
  | none => rw [takeTurn, h]
  | some p => rw [takeTurn, h, List.length_set]

/-- A turn is one of the operation whose turn it is. -/
theorem takeTurn_of_getElem? (h : pool[i]? = some p) :
    takeTurn i pool c = (pool.set i (p.turn c).1, (p.turn c).2) := by
  rw [takeTurn, h]

/-- The turn of an operation that there is not. -/
theorem takeTurn_of_none (h : pool[i]? = none) : takeTurn i pool c = (pool, c) := by
  rw [takeTurn, h]

/-- An operation after its own turn. -/
theorem getElem?_takeTurn_self (h : pool[i]? = some p) :
    (takeTurn i pool c).1[i]? = some (p.turn c).1 := by
  rw [takeTurn_of_getElem? h, List.getElem?_set_self]
  exact (List.getElem?_eq_some_iff.1 h).1

/-- The turn of another operation leaves it where it is. -/
theorem getElem?_takeTurn_of_ne (h : i ≠ j) : (takeTurn i pool c).1[j]? = pool[j]? := by
  cases hi : pool[i]? with
  | none => rw [takeTurn_of_none hi]
  | some p => rw [takeTurn_of_getElem? hi, List.getElem?_set_ne h]

end NodeSidecar
