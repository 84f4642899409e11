/-
**Nodes that look alike.**

An operation that only reads leaves the groups of the provider and the number of its open clients as
they were.  It leaves a record of its requests and reports behind, and it may have taken a failure
that was asked for.  Nothing that a node does afterwards looks at these: the ring audit reads the
groups too, and makes no more of them than a report.  So two nodes that differ in such traces only
go on in the same way.

Main definitions:

* `Plan.Reads`, `Operation.Reads` — a plan, an operation that changes nothing at the provider;
* `Node.shown` — a node without reports, and without the provider's records and the failures asked
  for;
* `Node.Alike` — two nodes that show the same.

Main results:

* `Operation.store_run`, `Operation.openClients_run` — what an operation leaves alone;
* `Node.Alike.pass`, `Node.Alike.command` — **nodes that look alike go on alike**, and give the same
  answers.
-/

import NodeSidecar.Node
import NodeSidecar.Proofs.Membership.Clients
import NodeSidecar.Proofs.Membership.Operations

set_option autoImplicit false

namespace NodeSidecar

/-! ### Operations that read -/

/-- A plan that changes nothing at the provider. -/
inductive Plan.Reads {α : Type} : Plan α → Prop
  | done (a : α) : Reads (.done a)
  | report {line : LogLine} {next : Plan α} : Reads next → Reads (.report line next)
  | describeGroups {names : List String}
      {next : Except CloudError (List AutoScalingGroup) → Plan α} :
      (∀ r, Reads (next r)) → Reads (.describeGroups names next)
  | describeSecurityGroups {names : List String}
      {next : Except CloudError (List SecurityGroup) → Plan α} :
      (∀ r, Reads (next r)) → Reads (.describeSecurityGroups names next)

/-- An operation that changes nothing at the provider. -/
inductive Operation.Reads {α : Type} : Operation α → Prop
  | settled (a : α) : Reads (.settled a)
  | leased {endpoint : String} {plan : Plan (Except MembershipError α)} {success : List LogLine} :
      plan.Reads → Reads (.leased endpoint plan success)

theorem Cloud.store_takeScript (c : Cloud) : c.takeScript.store = c.store := by
  unfold takeScript
  split <;> rfl

/-- A request that changes no store leaves it alone, whether it fails or not. -/
theorem Cloud.store_attempt {α : Type} {act : Store → Except CloudError (α × Store)}
    (hact : ∀ s a s', act s = .ok (a, s') → s' = s) (c : Cloud) (r : Request) :
    (c.attempt r act).2.store = c.store := by
  have htake : c.takeScript.takeFailure.2.store = c.store := c.store_takeScript
  unfold attempt
  generalize c.takeScript.takeFailure = taken at htake
  obtain ⟨_ | e, c'⟩ := taken
  · simp only
    split
    · next heq => exact (hact _ _ _ heq).trans htake
    · exact htake
  · exact htake

theorem Cloud.store_describeGroups (c : Cloud) (names : List String) :
    (c.describeGroups names).2.store = c.store := by
  refine c.store_attempt (fun s a s' h => ?_) _
  cases h
  rfl

theorem Cloud.store_describeSecurityGroups (c : Cloud) (names : List String) :
    (c.describeSecurityGroups names).2.store = c.store := by
  refine c.store_attempt (fun s a s' h => ?_) _
  cases hgroups : s.describeSecurityGroups names with
  | error e =>
      rw [hgroups] at h
      cases h
  | ok groups =>
      rw [hgroups] at h
      cases h
      rfl

theorem Plan.store_run {α : Type} {p : Plan α} (h : p.Reads) (c : Cloud) :
    (p.run c).2.store = c.store := by
  induction h generalizing c with
  | done a => rfl
  | report _ ih => exact ih _
  | @describeGroups names next _ ih =>
      exact (ih (c.describeGroups names).1 (c.describeGroups names).2).trans
        (c.store_describeGroups names)
  | @describeSecurityGroups names next _ ih =>
      exact (ih (c.describeSecurityGroups names).1 (c.describeSecurityGroups names).2).trans
        (c.store_describeSecurityGroups names)

/-- **An operation that reads leaves the groups as they were.** -/
theorem Operation.store_run {α : Type} {op : Operation α} (h : op.Reads) (c : Cloud) :
    (op.run c).2.store = c.store := by
  cases h with
  | settled a => rfl
  | @leased endpoint plan success hplan =>
      rcases leased_cases endpoint plan success c with
        ⟨e, c', heq, hstore, -⟩ | ⟨c₁, c', hstore, -, heq, huntouched⟩
      · rw [heq]
        exact hstore
      · rw [heq]
        exact huntouched.store.trans ((plan.store_run hplan c₁).trans hstore)

/-- **Every operation leaves as many clients open** as there were. -/
theorem Operation.openClients_run {α : Type} (op : Operation α) (c : Cloud) :
    (op.run c).2.openClients = c.openClients :=
  ((op.course none c).accounted c.faults.releases).1

namespace Membership

/-- A snapshot reads. -/
theorem reads_snapshot (s : MembershipSettings) : (snapshot s).Reads := by
  refine .leased (.describeGroups fun r => ?_)
  cases r <;> exact .done _

/-- A list of permissions reads. -/
theorem reads_listIngress (s : MembershipSettings) (fromPort toPort : UInt16) :
    (listIngress s fromPort toPort).Reads := by
  refine .leased (.describeSecurityGroups fun r => ?_)
  cases r <;> exact .done _

end Membership

namespace Node

/-! ### What a node shows -/

/-- **A node without reports**, and without the provider's records and the failures asked for. -/
def shown (n : Node) : Node :=
  { n with
    cloud := { store := n.cloud.store, openClients := n.cloud.openClients }
    log := [] }

/-- **Two nodes that show the same.** -/
def Alike (n n' : Node) : Prop := n.shown = n'.shown

variable {n n' n'' : Node}

/-- What an operation that reads leaves behind is not shown. -/
theorem shown_operate {α : Type} {op : Operation α} (h : op.Reads) (n : Node) :
    (n.operate op).2.shown = n.shown := by
  have hstore := op.store_run h n.cloud
  have hclients := op.openClients_run n.cloud
  simp only [operate, takeCloudLog, shown, hstore, hclients]

/-- An audit leaves behind no more than that. -/
theorem shown_audit (n : Node) :
    (n.takeCloudLog (Membership.audit n.settings n.cloud).2).shown = n.shown :=
  shown_operate (Membership.reads_snapshot n.settings) n

namespace Alike

theorem refl (n : Node) : Alike n n := rfl

theorem symm (h : Alike n n') : Alike n' n := Eq.symm h

theorem trans (h : Alike n n') (h' : Alike n' n'') : Alike n n'' := Eq.trans h h'

/-- What does not look at what is not shown comes out the same. -/
theorem congr {α : Type} (h : Alike n n') {f : Node → α} (hf : ∀ n, f n.shown = f n) :
    f n = f n' := by
  rw [← hf n, ← hf n', h]

/-- A change that does not look at what is not shown keeps nodes alike. -/
theorem map (h : Alike n n') {f : Node → Node} (hf : ∀ n, (f n.shown).shown = (f n).shown) :
    Alike (f n) (f n') :=
  congr h (f := fun n => (f n).shown) hf

theorem loop (h : Alike n n') : n.loop = n'.loop := h.congr (f := Node.loop) fun _ => rfl

theorem elapsed (h : Alike n n') : n.elapsed = n'.elapsed :=
  h.congr (f := Node.elapsed) fun _ => rfl

theorem keep (h : Alike n n') (l : Loop) (fx : List Effect) :
    Alike (n.keep l fx) (n'.keep l fx) :=
  h.map (f := fun n => n.keep l fx) fun _ => rfl

theorem finish (h : Alike n n') (id : FireId) (outcome : Outcome) :
    Alike (n.finish id outcome) (n'.finish id outcome) :=
  h.map (f := fun n => n.finish id outcome) fun _ => rfl

end Alike

/-! ### Fires -/

theorem shown_beginFire (n : Node) (task : String) (id : FireId) :
    (n.shown.beginFire task id).shown = (n.beginFire task id).shown := by
  have hduties : n.shown.duties = n.duties := rfl
  unfold beginFire
  rw [hduties]
  cases n.duties.lookup task with
  | none => rfl
  | some duty =>
      cases duty with
      | counting c =>
          simp only
          split
          · rfl
          · rfl
      | failing message => rfl
      | panicking message? => rfl
      | health monitor probe => rfl
      | audit =>
          -- the two audits may differ in failures and reports, which are not shown
          have hbefore : Alike (n.shown.takeCloudLog (Membership.audit n.shown.settings n.shown.cloud).2)
              (n.takeCloudLog (Membership.audit n.settings n.cloud).2) :=
            ((shown_audit n.shown).trans rfl).trans (shown_audit n).symm
          exact hbefore.finish id _

namespace Alike

theorem beginFires (h : Alike n n') (fx : List Effect) :
    Alike (n.beginFires fx) (n'.beginFires fx) := by
  unfold Node.beginFires
  induction Effect.events fx generalizing n n' with
  | nil => exact h
  | cons e es ih =>
      refine ih ?_
      cases e with
      | fired task id source =>
          exact h.map (f := fun n => n.beginFire task id) fun n => shown_beginFire n task id
      | _ => exact h

theorem finishPending (h : Alike n n') (p : Pending) :
    Alike (n.finishPending p) (n'.finishPending p) := by
  refine h.map (f := fun n => n.finishPending p) fun n => ?_
  have hduties : n.shown.duties = n.duties := rfl
  simp only [Node.finishPending, hduties]
  split
  · rfl
  · rfl

theorem finishDue (h : Alike n n') : Alike n.finishDue n'.finishDue := by
  have hall (ps : List Pending) {n n' : Node} (h : Alike n n') :
      Alike (ps.foldl Node.finishPending n) (ps.foldl Node.finishPending n') := by
    induction ps generalizing n n' with
    | nil => exact h
    | cons p ps ih => exact ih (h.finishPending p)
  have hdue : (n.pending.filter fun p => p.due == n.elapsed) =
      n'.pending.filter fun p => p.due == n'.elapsed :=
    h.congr (f := fun n => n.pending.filter fun p => p.due == n.elapsed) fun _ => rfl
  have hleft : Alike { n with pending := n.pending.filter fun p => p.due != n.elapsed }
      { n' with pending := n'.pending.filter fun p => p.due != n'.elapsed } :=
    h.map (f := fun n => { n with pending := n.pending.filter fun p => p.due != n.elapsed })
      fun _ => rfl
  unfold Node.finishDue
  simp only [hdue]
  exact hall _ hleft

/-! ### Time -/

theorem tick (h : Alike n n') : Alike n.tick n'.tick := by
  have hset : Alike { n with nextTick := n.elapsed + n.period }
      { n' with nextTick := n'.elapsed + n'.period } :=
    h.map (f := fun n => { n with nextTick := n.elapsed + n.period }) fun _ => rfl
  have hclock := hset.congr (f := wallClock) fun _ => rfl
  unfold Node.tick
  simp only [hclock]
  split
  · exact hset
  · next now _ =>
    rw [hset.loop]
    exact (hset.keep _ _).beginFires _

theorem happen (h : Alike n n') : Alike n.happen n'.happen := by
  have hdue := h.finishDue
  have hticks : (n.finishDue.ticking && n.finishDue.nextTick == n.finishDue.elapsed) =
      (n'.finishDue.ticking && n'.finishDue.nextTick == n'.finishDue.elapsed) :=
    hdue.congr (f := fun n => n.ticking && n.nextTick == n.elapsed) fun _ => rfl
  simp only [Node.happen, hticks]
  split
  · exact hdue.tick
  · exact hdue

theorem passFrom (h : Alike n n') (limit fuel : Nat) :
    Alike (Node.passFrom limit fuel n) (Node.passFrom limit fuel n') := by
  induction fuel generalizing n n' with
  | zero => exact h
  | succ fuel ih =>
      have hmoved : Alike { n with elapsed := min limit (n.nextMoment limit) }
          { n' with elapsed := min limit (n'.nextMoment limit) } :=
        h.map (f := fun n => { n with elapsed := min limit (n.nextMoment limit) }) fun _ => rfl
      simp only [Node.passFrom, h.elapsed]
      split
      · exact h
      · exact ih hmoved.happen

/-- **Time passes alike.** -/
theorem pass (h : Alike n n') (ms : Nat) : Alike (n.pass ms) (n'.pass ms) := by
  rw [Node.pass, Node.pass, h.elapsed]
  exact h.passFrom _ ms

/-! ### Commands -/

theorem send (h : Alike n n') (c : Command) :
    (n.send c).1 = (n'.send c).1 ∧ Alike (n.send c).2 (n'.send c).2 := by
  have hclock := h.congr (f := clock) fun _ => rfl
  have hloop := h.loop
  simp only [Node.send, hclock, hloop]
  exact ⟨trivial, (h.keep _ _).beginFires _⟩

theorem drain (h : Alike n n') (fuel : Nat) (m : Mailbox) :
    (Node.drain fuel m n).1 = (Node.drain fuel m n').1 ∧
      Alike (Node.drain fuel m n).2 (Node.drain fuel m n').2 := by
  induction fuel generalizing m n n' with
  | zero => exact ⟨rfl, h⟩
  | succ fuel ih =>
      have hpass := h.pass lookPeriod
      have hclock := hpass.congr (f := clock) fun _ => rfl
      simp only [Node.drain, h.loop]
      split
      · rw [hpass.loop, hclock]
        exact ih (hpass.keep _ _) _
      · exact ⟨rfl, h⟩

/-- **A command has the same answer**, and the nodes stay alike. -/
theorem command (h : Alike n n') (c : Command) :
    (n.command c).1 = (n'.command c).1 ∧ Alike (n.command c).2 (n'.command c).2 := by
  obtain ⟨hmailbox, hsent⟩ := h.send c
  have hlooks := hsent.congr (f := looks) fun _ => rfl
  obtain ⟨hdrained, hafter⟩ := hsent.drain (n'.send c).2.looks (n'.send c).1
  simp only [Node.command, hmailbox, hlooks]
  exact ⟨by rw [hdrained], hafter⟩

end Alike

end Node

end NodeSidecar
