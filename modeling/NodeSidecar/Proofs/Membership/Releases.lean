/-
**Releases that fail change nothing.**

The release of a client is the last that an errand asks of the provider.  It may fail; the failure
is reported once and otherwise lost.  So two rounds of the same errands that differ only in which
releases fail have the same results, make the same requests and leave the same provider behind, and
the reports of one are those of the other up to one warning for each release that has failed.

Main definitions:

* `Account.Twin`, `Cloud.Alike` — what two such rounds have in common;
* `Outline` — an errand, but for the failure of its release;
* `Errand.trace` — what is seen of some errands, one after another;
* `Errand.schedule` — the same errands with other releases that fail.

Main results:

* `Course.outline`, `Errand.exists_outline` — **one outline for all runs of an errand**;
* `Errand.trace_schedule` — two rounds of errands, from providers that are alike;
* `release_failures_are_invisible` — **any errands, under any two schedules of release failures**.
-/

import NodeSidecar.Proofs.Membership.Clients

set_option autoImplicit false

namespace NodeSidecar

/-! ### What two rounds have in common -/

/-- A request as it is recorded if no release fails. -/
def Request.heedless (r : Request × Option CloudError) : Request × Option CloudError :=
  if r.1 = .shutdown then (r.1, none) else r

/-- Whether a request is a release that has failed. -/
def Request.isFailedRelease (r : Request × Option CloudError) : Bool :=
  decide (r.1 = .shutdown) && r.2.isSome

/-- The number of releases of an errand that have failed. -/
def Account.failedReleases (a : Account) : Nat := a.requests.countP Request.isFailedRelease

/-- **Two accounts that differ only in the releases that fail.** -/
structure Account.Twin (x y : Account) : Prop where
  /-- They have the same result. -/
  result : x.result = y.result
  /-- They make the same requests, which end in the same way unless they are releases. -/
  requests : x.requests.map Request.heedless = y.requests.map Request.heedless
  /-- Each has one warning for every release that has failed, and the other reports are common. -/
  log : ∃ warning ∈ releaseWarnings, ∃ before after : List LogLine,
    x.log = before ++ List.replicate x.failedReleases (.warn warning) ++ after ∧
      y.log = before ++ List.replicate y.failedReleases (.warn warning) ++ after

/-- **Two providers that differ only in their records** and in whether releases fail. -/
structure Cloud.Alike (c c' : Cloud) : Prop where
  store : c'.store = c.store
  openClients : c'.openClients = c.openClients
  acquired : c'.acquired = c.acquired
  endpoints : c'.endpoints = c.endpoints
  faults : { c'.faults with releases := c.faults.releases } = c.faults

theorem Cloud.Alike.refl (c : Cloud) : c.Alike c := ⟨rfl, rfl, rfl, rfl, rfl⟩

/-! ### One errand -/

/-- **An errand, but for the failure of its release.** -/
structure Outline where
  result : Option (Except MembershipError RingAnswer)
  /-- The requests before the release. -/
  requests : List (Request × Option CloudError)
  /-- The number of releases. -/
  releases : Nat
  before : List LogLine
  warning : String
  after : List LogLine
  /-- The provider after the errand, but for its records. -/
  cloud : Cloud

namespace Outline

variable (o : Outline)

/-- The account of an errand whose release fails or not. -/
def account (fail : Bool) : Account where
  result := o.result
  requests := o.requests ++
    List.replicate o.releases (.shutdown, if fail then some Cloud.releaseFailure else none)
  log := o.before ++ List.replicate (if fail then o.releases else 0) (.warn o.warning) ++ o.after

/-- The provider after it. -/
def final (fail : Bool) : Cloud :=
  { o.cloud.withReleases fail with
    requests := (o.account fail).requests
    log := (o.account fail).log }

/-- The releases are the releases of a client, and so are the warnings. -/
structure Sound : Prop where
  requests : ∀ r ∈ o.requests, r.1 ≠ .shutdown
  warning : o.warning ∈ releaseWarnings

variable {o}

theorem releases_account (h : o.Sound) (fail : Bool) : (o.account fail).releases = o.releases := by
  have hothers := Request.countP_isRelease h.requests
  simp [Account.releases, account, hothers, List.countP_replicate, Request.isRelease]

theorem failedReleases_account (h : o.Sound) (fail : Bool) :
    (o.account fail).failedReleases = if fail then o.releases else 0 := by
  have hothers : o.requests.countP Request.isFailedRelease = 0 := by
    refine List.countP_eq_zero.2 fun r hr hfailed => h.requests r hr ?_
    rw [Request.isFailedRelease, Bool.and_eq_true] at hfailed
    exact of_decide_eq_true hfailed.1
  cases fail <;>
    simp [Account.failedReleases, account, hothers, List.countP_replicate, Request.isFailedRelease]

/-- Two accounts of one outline. -/
theorem twin_account (h : o.Sound) (fail fail' : Bool) :
    (o.account fail).Twin (o.account fail') where
  result := rfl
  requests := by simp [account, Request.heedless]
  log := by
    refine ⟨o.warning, h.warning, o.before, o.after, ?_, ?_⟩
    · rw [failedReleases_account h, account]
    · rw [failedReleases_account h, account]

/-- Two providers of one outline. -/
theorem alike_final (fail fail' : Bool) : (o.final fail).Alike (o.final fail') :=
  ⟨rfl, rfl, rfl, rfl, rfl⟩

end Outline

/-- A provider after the release of a client, which may fail. -/
theorem Cloud.afterRelease_withReleases (c : Cloud) (fail : Bool) (warning : String) :
    (c.withReleases fail).afterRelease warning =
      { c.withReleases fail with
        openClients := c.openClients - 1
        requests := c.requests ++ [(.shutdown, if fail then some releaseFailure else none)]
        log := c.log ++ List.replicate (if fail then 1 else 0) (.warn warning) } := by
  cases fail with
  | true => rfl
  | false => simp [afterRelease, withReleases, record]

/-- **The failure of a release has a say in the last request and in one report only.** -/
theorem Course.outline {opens : Bool} {c : Cloud}
    {f : Bool → Option (Except MembershipError RingAnswer) × Cloud} (h : Course opens c f)
    (hc : c.requests = []) :
    ∃ o : Outline, o.Sound ∧ ∀ fail, f fail = ((o.account fail).result, o.final fail) := by
  cases h with
  | unopened b c' hopens hidle hf =>
      have hrequests : c'.requests = [] := hidle.requests.trans hc
      refine ⟨⟨b, [], 0, c'.log, Cloud.dropWarning, [], c'⟩, ⟨by simp, by simp [releaseWarnings]⟩,
        fun fail => ?_⟩
      rw [hf]
      simp [Outline.account, Outline.final, Cloud.withReleases, hrequests]
  | released b used warning lines hopens hused hwarning hf =>
      obtain ⟨rs, hrs, hall⟩ := hused.requests
      rw [hc, List.nil_append] at hrs
      refine ⟨⟨b, rs, 1, used.log, warning, lines,
        { used with openClients := used.openClients - 1 }⟩, ⟨hall, hwarning⟩, fun fail => ?_⟩
      rw [hf, Cloud.foldl_report, Cloud.afterRelease_withReleases, hrs]
      rfl

namespace Errand

/-- Two alike providers at the begin of an errand. -/
theorem ready_of_alike {c c' : Cloud} (h : c.Alike c') (e : Errand) (fail : Bool) :
    ({ e with releaseFails := fail } : Errand).ready c' = (e.ready c).withReleases fail := by
  have hfaults : ({ e.faults.getD c'.faults with releases := fail } : Faults) =
      { e.faults.getD c.faults with releases := fail } := by
    cases e.faults with
    | some faults => rfl
    | none => exact congrArg (fun f : Faults => { f with releases := fail }) h.faults
  simp only [ready, Cloud.withReleases, h.store, h.openClients, h.acquired, h.endpoints, hfaults]

/-- **One outline for all runs of an errand** with alike providers, whose releases fail or not. -/
theorem exists_outline (s : MembershipSettings) (e : Errand) (c : Cloud) :
    ∃ o : Outline, o.Sound ∧ ∀ {c' : Cloud}, c.Alike c' → ∀ fail,
      ({ e with releaseFails := fail } : Errand).run s c' = (o.account fail, o.final fail) := by
  obtain ⟨o, hsound, hcall⟩ := (RingCall.course s e.call e.patience (e.ready c)).outline rfl
  refine ⟨o, hsound, fun {c'} h fail => ?_⟩
  have hrun : e.call.carryOut s e.patience (({ e with releaseFails := fail } : Errand).ready c') =
      ((o.account fail).result, o.final fail) := by
    rw [ready_of_alike h]
    exact hcall fail
  simp only [run, hrun]
  rfl

/-- **What is seen of some errands**, one after another, and the provider after them. -/
def trace (s : MembershipSettings) : List Errand → Cloud → List Account × Cloud
  | [], c => ([], c)
  | e :: errands, c =>
    let (a, c) := e.run s c
    let (rest, c) := trace s errands c
    (a :: rest, c)

/-- The same errands, the release of the `i`-th of which fails if `fails i`. -/
def schedule (fails : Nat → Bool) (errands : List Errand) : List Errand :=
  errands.mapIdx fun i e => { e with releaseFails := fails i }

theorem schedule_cons (fails : Nat → Bool) (e : Errand) (errands : List Errand) :
    schedule fails (e :: errands) =
      { e with releaseFails := fails 0 } :: schedule (fun i => fails (i + 1)) errands := by
  rw [schedule, List.mapIdx_cons]
  rfl

/-- **Two rounds of errands**, from alike providers. -/
theorem trace_schedule (s : MembershipSettings) (errands : List Errand) (fails fails' : Nat → Bool)
    {c c' : Cloud} (h : c.Alike c') :
    List.Forall₂ Account.Twin (trace s (schedule fails errands) c).1
        (trace s (schedule fails' errands) c').1 ∧
      (trace s (schedule fails errands) c).2.Alike (trace s (schedule fails' errands) c').2 ∧
      ∀ i a, (trace s (schedule fails errands) c).1[i]? = some a →
        a.failedReleases = if fails i then a.releases else 0 := by
  induction errands generalizing fails fails' c c' with
  | nil => exact ⟨.nil, h, by simp [schedule, trace]⟩
  | cons e errands ih =>
      obtain ⟨o, hsound, hrun⟩ := exists_outline s e c
      -- whatever its release did, the providers after the first errand are alike
      obtain ⟨htwins, halike, hfailed⟩ := ih (fun i => fails (i + 1)) (fun i => fails' (i + 1))
        (Outline.alike_final (o := o) (fails 0) (fails' 0))
      simp only [schedule_cons, trace, hrun (.refl c), hrun h]
      refine ⟨.cons (Outline.twin_account hsound _ _) htwins, halike, fun i a ha => ?_⟩
      cases i with
      | zero =>
          obtain rfl : o.account (fails 0) = a := by simpa using ha
          rw [Outline.failedReleases_account hsound, Outline.releases_account hsound]
      | succ i => exact hfailed i a (by simpa using ha)

end Errand

/-- **Release failures are invisible**: under any two schedules of release failures, errands have
the same results, make the same requests, and leave the same groups, clients and failures to come
behind; the reports differ in one warning for each release that has failed, which are those that
the schedule names. -/
theorem release_failures_are_invisible (s : MembershipSettings) (errands : List Errand) (c : Cloud)
    (fails fails' : Nat → Bool) :
    let x := Errand.trace s (Errand.schedule fails errands) c
    let y := Errand.trace s (Errand.schedule fails' errands) c
    List.Forall₂ Account.Twin x.1 y.1 ∧ x.2.Alike y.2 ∧
      ∀ i a, x.1[i]? = some a → a.failedReleases = if fails i then a.releases else 0 :=
  Errand.trace_schedule s errands fails fails' (.refl c)

end NodeSidecar
