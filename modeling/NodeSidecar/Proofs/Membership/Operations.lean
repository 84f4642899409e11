/-
**Operations of a provider that may be told to fail.**

An operation opens a client, carries out its plan and releases the client.  Neither the opening nor
the release changes the groups, so what an operation does is what its plan does, unless its client
cannot be opened.  A request that the store settles is settled unless the provider was told to fail
it, and then nothing has changed; this carries over from requests to operations.

Main definition: `Cloud.Settles` — what a provider settles unless it is told to fail.

Main results:

* `Cloud.attempt_settles` — a request that the store settles;
* `Operation.leased_cases` — **an operation is its plan**, unless its client cannot be opened;
* `Operation.leased_settles` — an operation whose plan is settled.
-/

import NodeSidecar.Membership.Operation
import NodeSidecar.Proofs.Cloud.Failures
import NodeSidecar.Proofs.Cloud.Requests

set_option autoImplicit false

namespace NodeSidecar

/-! ### What a provider settles unless it is told to fail -/

/-- **What a provider settles unless it is told to fail**: there is a result and a new store, or a
failure that has changed nothing. -/
inductive Cloud.Settles {ε α : Type} (c : Cloud) (a : α) (st : Store) :
    Except ε α × Cloud → Prop
  | settled {c' : Cloud} (hstore : c'.store = st) (hsteady : c.Steady → c'.Steady) :
      Settles c a st (.ok a, c')
  | failed {e : ε} {c' : Cloud} (hstore : c'.store = c.store) (hnot : ¬ c.Steady) :
      Settles c a st (.error e, c')

namespace Cloud

variable {c : Cloud}

/-- No failure of requests is on the schedule of a steady provider. -/
theorem Steady.failure (h : c.Steady) : c.faults.failure 0 = none := by
  rw [Faults.failure]
  split
  · next e he => cases h.script _ (List.mem_of_getElem? he)
  · exact h.nextRequest

/-- A request that the store settles. -/
theorem attempt_settles {α : Type} (r : Request) {act : Store → Except CloudError (α × Store)}
    {a : α} {st : Store} (ha : act c.store = .ok (a, st)) : c.Settles a st (c.attempt r act) := by
  cases hf : c.faults.failure 0 with
  | some e =>
      obtain ⟨c', heq, -, hstore⟩ := c.attempt_of_failure r act hf
      rw [heq]
      refine .failed hstore fun hsteady => ?_
      rw [hsteady.failure] at hf
      cases hf
  | none =>
      obtain ⟨c', heq, -, hstore⟩ := c.attempt_of_settled r act hf ha
      rw [heq]
      refine .settled hstore fun hsteady => ?_
      obtain ⟨c'', heq', hs, -⟩ := hsteady.attempt_ok r act ha
      rw [heq] at heq'
      exact (Prod.mk.inj heq').2 ▸ hs

end Cloud

/-- **An operation is its plan**, unless its client cannot be opened. -/
theorem Operation.leased_cases {α : Type} (endpoint : String)
    (plan : Plan (Except MembershipError α)) (success : List LogLine) (c : Cloud) :
    (∃ e c', (leased endpoint plan success).run c = (.error e, c') ∧ c'.store = c.store ∧
      ¬ c.Steady) ∨
    ∃ c₁ c', c₁.store = c.store ∧ (c.Steady → c₁.Steady) ∧
      (leased endpoint plan success).run c = ((plan.run c₁).1, c') ∧
        (plan.run c₁).2.Untouched c' := by
  cases hopen : c.faults.nextOpen with
  | some e =>
      refine .inl ⟨.cloud e, (c.open endpoint).2, ?_, ?_, fun hsteady => ?_⟩
      · simp only [run, Cloud.open, hopen]
      · simp only [Cloud.open, hopen]
      · rw [hsteady.nextOpen] at hopen
        cases hopen
  | none =>
      have hopened : c.open endpoint = (.ok { endpoint }, (c.open endpoint).2) := by
        simp only [Cloud.open, hopen]
      refine .inr ⟨(c.open endpoint).2, _, ?_, fun hsteady => ?_, by rw [run, hopened], ?_⟩
      · simp only [Cloud.open, hopen]
      · obtain ⟨lease, c', heq, hs, -⟩ := hsteady.open endpoint
        exact heq ▸ hs
      · split
        · exact (Cloud.untouched_finish _ _ _).trans (Cloud.untouched_foldl_report _ _)
        · exact Cloud.untouched_finish _ _ _

/-- An operation whose plan is settled. -/
theorem Operation.leased_settles {α : Type} {endpoint : String}
    {plan : Plan (Except MembershipError α)} {success : List LogLine} {c : Cloud} {a : α}
    {st : Store} (h : ∀ c₁ : Cloud, c₁.store = c.store → c₁.Settles a st (plan.run c₁)) :
    c.Settles a st ((leased endpoint plan success).run c) := by
  rcases leased_cases endpoint plan success c with
    ⟨e, c', heq, hstore, hnot⟩ | ⟨c₁, c', hstore, hsteady, heq, huntouched⟩
  · rw [heq]
    exact .failed hstore hnot
  · have hplan := h c₁ hstore
    rw [heq]
    revert hplan huntouched
    generalize plan.run c₁ = r
    intro huntouched hplan
    cases hplan with
    | settled hst hs =>
        exact .settled (huntouched.store.trans hst) fun h => (hs (hsteady h)).congr huntouched
    | failed hst hnot =>
        exact .failed ((huntouched.store.trans hst).trans hstore) fun h => hnot (hsteady h)

/-- A steady provider settles it. -/
theorem Cloud.Settles.of_steady {ε α : Type} {c : Cloud} {a : α} {st : Store}
    {r : Except ε α × Cloud} (h : c.Settles a st r) (hc : c.Steady) :
    r.1 = .ok a ∧ r.2.store = st ∧ r.2.Steady := by
  cases h with
  | settled hstore hsteady => exact ⟨rfl, hstore, hsteady hc⟩
  | failed hstore hnot => exact absurd hc hnot

end NodeSidecar
