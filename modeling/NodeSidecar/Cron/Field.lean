/-
**Fields of a calendar expression.**

A field is a list of terms; it allows each ordinal that one of its terms does.  A term is all
ordinals, one ordinal, a range of ordinals or names, one name, or every `n`-th ordinal of what
stands before a stroke; one ordinal before a stroke begins a range to the end of the unit.

Main definitions:

* `Cron.Span`, `Cron.Term` — what stands before a stroke, and a term;
* `Cron.Term.ordinals?` — the ordinals of a term, unless it makes no sense in the unit;
* `Cron.fieldOrdinals?` — the ordinals of a field, in order and without repetition.
-/

import NodeSidecar.Cron.Unit

set_option autoImplicit false

namespace NodeSidecar.Cron

/-- A set of ordinals as written, before any stroke. -/
inductive Span where
  | all
  | point (n : Nat)
  | range (a b : Nat)
  | named (a b : List Char)
  deriving DecidableEq, Repr

/-- An element of a field's list. -/
inductive Term where
  | span (s : Span)
  | every (s : Span) (step : Nat)
  | name (n : List Char)
  deriving DecidableEq, Repr

/-- The ordinals from `a` to `b`, provided both belong to the unit and are in order. -/
def rangeOrdinals? (u : Unit) (a b : Nat) : Option (List Nat) :=
  if u.holds a && u.holds b && decide (a ≤ b) then some (Unit.between a b) else none

/-- The ordinals of a span; a single ordinal is not yet checked against the unit. -/
def Span.ordinals? (u : Unit) : Span → Option (List Nat)
  | .all => some u.ordinals
  | .point n => some [n]
  | .range a b => rangeOrdinals? u a b
  | .named a b => do rangeOrdinals? u (← u.named? a) (← u.named? b)

/-- Every `step`-th element of a list, from its first on; `wait` elements are passed over before
the next one taken. -/
def everyFrom (step : Nat) : Nat → List Nat → List Nat
  | _, [] => []
  | 0, n :: ns => n :: everyFrom step (step - 1) ns
  | wait + 1, _ :: ns => everyFrom step wait ns

/-- The ordinals of a term, all of which belong to the unit. -/
def Term.ordinals? (u : Unit) : Term → Option (List Nat)
  | .span s => do
    let ns ← s.ordinals? u
    if ns.all u.holds then some ns else none
  | .every _ 0 => none
  | .every (.point n) step =>
    if u.holds n then some (everyFrom step 0 (Unit.between n u.greatest)) else none
  | .every s step => (s.ordinals? u).map (everyFrom step 0)
  | .name n => (u.named? n).map fun k => [k]

/-- The ordinals of a field, in order, provided each of its terms makes sense. -/
def fieldOrdinals? (u : Unit) (terms : List Term) : Option (List Nat) := do
  let sets ← terms.mapM (Term.ordinals? u)
  return u.ordinals.filter fun n => sets.any (·.contains n)

end NodeSidecar.Cron
