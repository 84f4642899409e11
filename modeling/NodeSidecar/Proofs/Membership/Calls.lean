/-
**The calls of a coordinator.**

Every operation on the ring is a call, and every call ends in one of two ways: no client is opened
and nothing is counted, or a client is opened, requests are made with it, and it is released, with
reports behind the release.  Which of the two it is, what is asked for and what comes of it does not
depend on whether the release fails.  This holds of a call that runs to its end as well as of one
that is given up on its way.

Main definitions:

* `Plan.map`, `Operation.map` — an operation whose result is turned into another;
* `Operation.carryOut` — an operation that runs to its end, or is given up after some turns;
* `RingCall`, `RingAnswer`, `RingCall.carryOut` — all operations on the ring, as calls with answers;
* `Course` — what comes of a call, as a function of whether releases fail.

Main results:

* `Stage.turns`, `Operation.course` — what comes of an operation after any number of turns;
* `RingCall.course` — **what comes of a call**;
* `RingCall.opens_iff` — which calls open a client.
-/

import NodeSidecar.Membership.Audit
import NodeSidecar.Proofs.Cloud.Leases
import NodeSidecar.Proofs.Cloud.Permissions
import NodeSidecar.Proofs.Membership.Turns

set_option autoImplicit false

namespace NodeSidecar

/-! ### Results turned into others -/

/-- A plan whose result is turned into another. -/
def Plan.map {α β : Type} (f : α → β) : Plan α → Plan β
  | done a => done (f a)
  | report line next => report line (next.map f)
  | describeGroups names next => describeGroups names fun r => (next r).map f
  | updateGroup update next => updateGroup update fun r => (next r).map f
  | changeIngress change group rule next => changeIngress change group rule fun r => (next r).map f
  | describeSecurityGroups names next => describeSecurityGroups names fun r => (next r).map f

theorem Plan.run_map {α β : Type} (f : α → β) (p : Plan α) (c : Cloud) :
    (p.map f).run c = (f (p.run c).1, (p.run c).2) := by
  induction p generalizing c with
  | done a => rfl
  | report line next ih => exact ih _
  | describeGroups names next ih => exact ih _ _
  | updateGroup update next ih => exact ih _ _
  | changeIngress change group rule next ih => exact ih _ _
  | describeSecurityGroups names next ih => exact ih _ _

namespace Operation

variable {α β : Type}

/-- An operation whose result is turned into another. -/
def map (f : α → β) : Operation α → Operation β
  | settled a => settled (f a)
  | leased endpoint plan success => leased endpoint (plan.map (Except.map f)) success

@[simp] theorem succeeded_map {ε : Type} (f : α → β) (r : Except ε α) :
    succeeded (r.map f) = succeeded r := by
  cases r <;> rfl

/-- It runs as the operation does. -/
theorem run_map (f : α → β) (op : Operation α) (c : Cloud) :
    (op.map f).run c = ((op.run c).1.map f, (op.run c).2) := by
  cases op with
  | settled a => rfl
  | leased endpoint plan success =>
      simp only [map, run]
      rcases c.open endpoint with ⟨e | lease, c'⟩
      · rfl
      · simp only [Plan.run_map, succeeded_map]

/-- **An operation that runs to its end, or is given up** a number of turns after its first one. -/
def carryOut (op : Operation α) (patience : Option Nat) (c : Cloud) :
    Option (Except MembershipError α) × Cloud :=
  match patience with
  | none => (some (op.run c).1, (op.run c).2)
  | some n =>
    let (p, c) := Progress.turns (n + 1) (.waiting op) c
    p.giveUp c

/-- Whether an operation opens a client. -/
def opens (op : Operation α) (c : Cloud) : Bool :=
  match op with
  | settled _ => false
  | leased _ _ _ => c.faults.nextOpen.isNone

@[simp] theorem opens_settled (a : α) (c : Cloud) : (settled a).opens c = false := rfl

@[simp] theorem opens_leased (endpoint : String) (plan : Plan (Except MembershipError α))
    (success : List LogLine) (c : Cloud) :
    (leased endpoint plan success).opens c = c.faults.nextOpen.isNone := rfl

@[simp] theorem opens_map (f : α → β) (op : Operation α) (c : Cloud) :
    (op.map f).opens c = op.opens c := by
  cases op <;> rfl

end Operation

/-! ### What comes of an operation -/

/-- Nothing is counted: no client was opened, and no request was made. -/
structure Cloud.Uncounted (c c' : Cloud) : Prop where
  openClients : c'.openClients = c.openClients
  acquired : c'.acquired = c.acquired
  requests : c'.requests = c.requests

/-- The reports on releases that fail. -/
def releaseWarnings : List String :=
  [Cloud.finishWarning true, Cloud.finishWarning false, Cloud.dropWarning]

theorem finishWarning_mem (succeeded : Bool) :
    Cloud.finishWarning succeeded ∈ releaseWarnings := by
  cases succeeded <;> simp [releaseWarnings]

/-- **What comes of a call, as a function of whether releases fail.** -/
inductive Course {β : Type} (opens : Bool) (c : Cloud) (f : Bool → β × Cloud) : Prop
  /-- No client is opened. -/
  | unopened (b : β) (c' : Cloud) : opens = false → c.Uncounted c' →
      (∀ fail, f fail = (b, c'.withReleases fail)) → Course opens c f
  /-- A client is opened and released, and some reports follow. -/
  | released (b : β) (used : Cloud) (warning : String) (lines : List LogLine) : opens = true →
      c.Begun used → warning ∈ releaseWarnings →
      (∀ fail, f fail =
        (b, lines.foldl Cloud.report ((used.withReleases fail).afterRelease warning))) →
      Course opens c f

theorem Cloud.Uncounted.foldl_report {c c' : Cloud} (h : c.Uncounted c') (lines : List LogLine) :
    c.Uncounted (lines.foldl Cloud.report c') := by
  rw [Cloud.foldl_report]
  exact ⟨h.openClients, h.acquired, h.requests⟩

/-- A call whose answer is turned into another, with some reports. -/
theorem Course.conclude {β γ : Type} {opens : Bool} {c : Cloud} {f : Bool → β × Cloud}
    (h : Course opens c f) (g : β → γ × List LogLine) :
    Course opens c fun fail =>
      ((g (f fail).1).1, (g (f fail).1).2.foldl Cloud.report (f fail).2) := by
  cases h with
  | unopened b c' hopens hidle hf =>
      refine .unopened (g b).1 _ hopens (hidle.foldl_report (g b).2) fun fail => ?_
      rw [hf, Cloud.foldl_report_withReleases]
  | released b used warning lines hopens hused hwarning hf =>
      refine .released (g b).1 used warning (lines ++ (g b).2) hopens hused hwarning fun fail => ?_
      rw [hf, List.foldl_append]

/-- Where an operation stands, as a function of whether releases fail. -/
inductive Stage {α : Type} (op : Operation α) (c : Cloud) (f : Bool → Progress α × Cloud) : Prop
  | waiting : (∀ fail, f fail = (.waiting op, c.withReleases fail)) → Stage op c f
  | working (lease : Lease) (plan : Plan (Except MembershipError α)) (success : List LogLine)
      (used : Cloud) : op.opens c = true → lease.Fresh → c.Begun used →
      (∀ fail, f fail = (.working lease plan success, used.withReleases fail)) → Stage op c f
  | ended (g : Bool → Except MembershipError α × Cloud) : Course (op.opens c) c g →
      (∀ fail, f fail = (.ended (g fail).1, (g fail).2)) → Stage op c f

section Stages

variable {α : Type} {op : Operation α} {c : Cloud} {f : Bool → Progress α × Cloud}

/-- The release of a client whose operation has a result. -/
theorem Course.close {opens : Bool} {used : Cloud} (hopens : opens = true) (h : c.Begun used)
    {lease : Lease} (hfresh : lease.Fresh) (result : Except MembershipError α)
    (success : List LogLine) :
    Course opens c fun fail =>
      (result, Progress.close lease result success (used.withReleases fail)) := by
  refine .released result used (Cloud.finishWarning (succeeded result))
    (if succeeded result then success else []) hopens h (finishWarning_mem _) fun fail => ?_
  rw [Progress.close, Cloud.finish_of_fresh hfresh]
  cases succeeded result <;> rfl

/-- **A turn of an operation.** -/
theorem Stage.turn (h : Stage op c f) : Stage op c fun fail => (f fail).1.turn (f fail).2 := by
  cases h with
  | waiting hf =>
      cases op with
      | settled a =>
          refine .ended (fun fail => (.ok a, c.withReleases fail)) ?_ fun fail => ?_
          · exact .unopened _ c rfl ⟨rfl, rfl, rfl⟩ fun _ => rfl
          · rw [hf]
            rfl
      | leased endpoint plan success =>
          cases hnext : c.faults.nextOpen with
          | some e =>
              have hopen := Cloud.open_of_some hnext endpoint
              refine .ended (fun fail => (.error (.cloud e),
                ((c.open endpoint).2).withReleases fail)) ?_ fun fail => ?_
              · refine .unopened _ (c.open endpoint).2 (by simp [hnext]) ?_
                  fun _ => rfl
                rw [hopen]
                exact ⟨rfl, rfl, rfl⟩
              · rw [hf]
                simp only [Progress.turn, Cloud.open_withReleases, hopen]
          | none =>
              obtain ⟨lease, c', hopen, hfresh, hbegun⟩ := Cloud.open_of_none hnext endpoint
              refine .working lease plan success c' (by simp [hnext]) hfresh
                hbegun fun fail => ?_
              rw [hf]
              simp only [Progress.turn, Cloud.open_withReleases, hopen]
  | working lease plan success used hopens hfresh hbegun hf =>
      by_cases hdone : ∃ result, plan = .done result
      · obtain ⟨result, rfl⟩ := hdone
        refine .ended _ (.close hopens hbegun hfresh result success) fun fail => ?_
        rw [hf]
        rfl
      · -- every other plan has a step to make
        refine .working lease (plan.step used).1 success (plan.step used).2 hopens hfresh
          (hbegun.asked (plan.asked_step used)) fun fail => ?_
        have hstep := plan.step_withReleases used fail
        rw [hf]
        cases plan with
        | done result => exact absurd ⟨result, rfl⟩ hdone
        | report line next => rfl
        | describeGroups names next => simp only [Progress.turn, hstep]
        | updateGroup update next => simp only [Progress.turn, hstep]
        | changeIngress change group rule next => simp only [Progress.turn, hstep]
        | describeSecurityGroups names next => simp only [Progress.turn, hstep]
  | ended g hg hf =>
      refine .ended g hg fun fail => ?_
      rw [hf]
      rfl

/-- **Any number of turns.** -/
theorem Stage.turns (n : Nat) (h : Stage op c f) :
    Stage op c fun fail => Progress.turns n (f fail).1 (f fail).2 := by
  induction n generalizing f with
  | zero => exact h
  | succ n ih => exact ih h.turn

/-- An operation that is given up after its first turn. -/
theorem Stage.giveUp (h : Stage op c f) (hbegun : ∀ fail, (f fail).1 ≠ .waiting op) :
    Course (op.opens c) c fun fail => (f fail).1.giveUp (f fail).2 := by
  cases h with
  | waiting hf => exact absurd (by rw [hf]) (hbegun true)
  | working lease plan success used hopens hfresh hused hf =>
      refine .released none used Cloud.dropWarning [] hopens hused (by simp [releaseWarnings])
        fun fail => ?_
      rw [hf, Progress.giveUp, Cloud.drop_of_fresh hfresh]
      rfl
  | ended g hg hf =>
      have hsome := hg.conclude fun result => (some result, [])
      simp only [hf, Progress.giveUp]
      exact hsome

/-- An operation that runs to its end after its first turn. -/
theorem Stage.run (h : Stage op c f) (hbegun : ∀ fail, (f fail).1 ≠ .waiting op) :
    Course (op.opens c) c fun fail => (f fail).1.run (f fail).2 := by
  cases h with
  | waiting hf => exact absurd (by rw [hf]) (hbegun true)
  | working lease plan success used hopens hfresh hused hf =>
      have hclose := Course.close hopens (hused.asked (plan.asked_run used)) hfresh
        (plan.run used).1 success
      simp only [hf, Progress.run, plan.run_withReleases]
      exact hclose
  | ended g hg hf =>
      simp only [hf, Progress.run]
      exact hg

end Stages

/-- **What comes of an operation**, run to its end or given up. -/
theorem Operation.course {α : Type} (op : Operation α) (patience : Option Nat) (c : Cloud) :
    Course (op.opens c) c fun fail => op.carryOut patience (c.withReleases fail) := by
  have hstage : Stage op c fun fail => (.waiting op, c.withReleases fail) := .waiting fun _ => rfl
  cases patience with
  | some n =>
      exact (hstage.turns (n + 1)).giveUp fun fail => Progress.turns_succ_ne_waiting n _ op _
  | none =>
      -- the first turn does not change how the operation ends
      have hrun := hstage.turn.run fun fail => Progress.turn_ne_waiting _ op _
      simp only [Progress.run_turn] at hrun
      exact hrun.conclude fun result => (some result, [])

/-! ### Calls -/

/-- A call to the coordinator of a ring. -/
inductive RingCall where
  | members
  | capacity
  | snapshot
  | listIngress (fromPort toPort : UInt16)
  | addIngress (cidrs : List String) (fromPort toPort : UInt16)
  | removeIngress (cidrs : List String) (fromPort toPort : UInt16)
  | expandBy (count : UInt32)
  | audit
  deriving DecidableEq

/-- What a call answers when it succeeds. -/
inductive RingAnswer where
  | members (ids : List String)
  | capacity (size : UInt32)
  | snapshot (s : Snapshot)
  | ranges (cidrs : CidrSet)
  | done
  | audited (snapshot? : Option Snapshot)
  deriving DecidableEq

namespace RingCall

/-- The operation of a call; an audit takes a snapshot. -/
def operation (s : MembershipSettings) : RingCall → Operation RingAnswer
  | members => (Membership.members s).map .members
  | capacity => (Membership.capacity s).map .capacity
  | snapshot => (Membership.snapshot s).map .snapshot
  | listIngress fromPort toPort => (Membership.listIngress s fromPort toPort).map .ranges
  | addIngress cidrs fromPort toPort =>
    (Membership.addIngress s cidrs fromPort toPort).map fun _ => .done
  | removeIngress cidrs fromPort toPort =>
    (Membership.removeIngress s cidrs fromPort toPort).map fun _ => .done
  | expandBy count => (Membership.expandBy s count).map fun _ => .done
  | audit => (Membership.snapshot s).map .snapshot

/-- What an audit makes of the answer to its operation, with its reports. -/
def concludeAudit : Except MembershipError RingAnswer →
    Except MembershipError RingAnswer × List LogLine
  | .ok (.snapshot v) =>
    (.ok (.audited (Membership.conclude (.ok v)).1), [(Membership.conclude (.ok v)).2])
  | .ok answer => (.ok answer, [])
  | .error e =>
    (.ok (.audited (Membership.conclude (.error e)).1), [(Membership.conclude (.error e)).2])

/-- What a call makes of the result of its operation, with its reports. -/
def conclude : RingCall → Option (Except MembershipError RingAnswer) →
    Option (Except MembershipError RingAnswer) × List LogLine
  | audit, some result => (some (concludeAudit result).1, (concludeAudit result).2)
  | _, result => (result, [])

/-- **A call that runs to its end, or is given up** a number of turns after its first one. -/
def carryOut (s : MembershipSettings) (call : RingCall) (patience : Option Nat) (c : Cloud) :
    Option (Except MembershipError RingAnswer) × Cloud :=
  let (result, c) := (call.operation s).carryOut patience c
  ((call.conclude result).1, (call.conclude result).2.foldl Cloud.report c)

/-- An audit is carried out as the ring is audited. -/
theorem carryOut_audit (s : MembershipSettings) (c : Cloud) :
    audit.carryOut s none c =
      (some (.ok (.audited (Membership.audit s c).1)), (Membership.audit s c).2) := by
  simp only [carryOut, Operation.carryOut, operation, Operation.run_map, Membership.audit]
  cases ((Membership.snapshot s).run c).1 with
  | ok v => rfl
  | error e => rfl

/-- **What comes of a call**, run to its end or given up. -/
theorem course (s : MembershipSettings) (call : RingCall) (patience : Option Nat) (c : Cloud) :
    Course ((call.operation s).opens c) c fun fail =>
      call.carryOut s patience (c.withReleases fail) :=
  ((call.operation s).course patience c).conclude call.conclude

/-- A call that has nothing to do. -/
def Idle : RingCall → Prop
  | addIngress cidrs _ _ => cidrs = []
  | removeIngress cidrs _ _ => cidrs = []
  | expandBy count => count = 0
  | _ => False

theorem isEmpty_ofList (cidrs : List String) :
    (CidrSet.ofList cidrs).isEmpty = true ↔ cidrs = [] := by
  rw [CidrSet.isEmpty_iff, List.eq_nil_iff_forall_not_mem]
  simp

/-- A change of permissions opens a client unless it has nothing to do. -/
theorem opens_changeIngress (s : MembershipSettings) (change : IngressChange)
    (cidrs : List String) (fromPort toPort : UInt16) (c : Cloud) :
    (Membership.changeIngress s change (.ofList cidrs) fromPort toPort).opens c = true ↔
      cidrs ≠ [] ∧ c.faults.nextOpen = none := by
  rw [Membership.changeIngress]
  by_cases hempty : cidrs = []
  · rw [if_pos ((isEmpty_ofList cidrs).2 hempty)]
    simp [hempty]
  · rw [if_neg (mt (isEmpty_ofList cidrs).1 hempty)]
    simp [hempty]

/-- **A call opens a client** unless it has nothing to do or the opening is to fail. -/
theorem opens_iff (s : MembershipSettings) (call : RingCall) (c : Cloud) :
    (call.operation s).opens c = true ↔ ¬ call.Idle ∧ c.faults.nextOpen = none := by
  cases call with
  | members => simp [operation, Membership.members, Idle]
  | capacity => simp [operation, Membership.capacity, Idle]
  | snapshot => simp [operation, Membership.snapshot, Idle]
  | listIngress fromPort toPort => simp [operation, Membership.listIngress, Idle]
  | addIngress cidrs fromPort toPort =>
      rw [operation, Operation.opens_map]
      exact opens_changeIngress s .authorize cidrs fromPort toPort c
  | removeIngress cidrs fromPort toPort =>
      rw [operation, Operation.opens_map]
      exact opens_changeIngress s .revoke cidrs fromPort toPort c
  | expandBy count =>
      rw [operation, Operation.opens_map, Membership.expandBy]
      by_cases hzero : count = 0
      · simp [hzero, Idle]
      · simp [hzero, Idle]
  | audit => simp [operation, Membership.snapshot, Idle]

end RingCall

end NodeSidecar
