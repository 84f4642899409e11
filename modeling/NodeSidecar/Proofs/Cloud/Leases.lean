/-
**The life of a client.**

A client is counted when it is opened and taken off the count when it is shut down for the first
time.  Two flags see to that: the lease remembers that it has released its client, so that the end
of the lease does nothing after the operation has finished, and the client remembers that it was
shut down, so that it may be shut down again from outside.

Main definitions:

* `Cloud.Untouched` — the same store, and the same failures asked for;
* `Lease.Fresh` — a lease whose client is in use;
* `Cloud.afterRelease` — a provider after the one release of a client;
* `Cloud.Asked`, `Cloud.Begun` — a provider after requests, and after the opening of a client and
  requests with it;
* `Cloud.withReleases` — a provider whose releases fail or do not.

Main results:

* `Cloud.untouched_finish` — the end of a lease changes neither the store nor the failures to come;
* `Cloud.finish_of_fresh`, `Cloud.drop_of_fresh` — **either end of a lease releases its client once,
  and reports it once if that fails**;
* `Plan.asked_step` — a request of a plan opens and releases nothing;
* `Plan.step_withReleases`, `Plan.run_withReleases` — **no plan finds out whether releases fail**.
-/

import NodeSidecar.Cloud.Plan

set_option autoImplicit false

namespace NodeSidecar

/-- A lease of a client that has neither been released nor shut down. -/
structure Lease.Fresh (l : Lease) : Prop where
  released : l.released = false
  client : l.client.closed = false

namespace Cloud

/-! ### What a release leaves alone -/

/-- **The same store, and the same failures asked for.** -/
structure Untouched (c c' : Cloud) : Prop where
  faults : c'.faults = c.faults
  store : c'.store = c.store

theorem Untouched.refl (c : Cloud) : Untouched c c := ⟨rfl, rfl⟩

theorem Untouched.trans {c c' c'' : Cloud} (h : Untouched c c') (h' : Untouched c' c'') :
    Untouched c c'' :=
  ⟨h'.faults.trans h.faults, h'.store.trans h.store⟩

theorem untouched_report (c : Cloud) (line : LogLine) : Untouched c (c.report line) := ⟨rfl, rfl⟩

/-- Reports are appended to the record of reports, and nothing else changes. -/
theorem foldl_report (c : Cloud) (lines : List LogLine) :
    lines.foldl report c = { c with log := c.log ++ lines } := by
  induction lines generalizing c with
  | nil => rw [List.append_nil, List.foldl_nil]
  | cons line lines ih => rw [List.foldl_cons, ih, report, List.append_assoc, List.singleton_append]

theorem untouched_foldl_report (c : Cloud) (lines : List LogLine) :
    Untouched c (lines.foldl report c) := by
  rw [foldl_report]
  exact ⟨rfl, rfl⟩

theorem untouched_shutdown (c : Cloud) (l : Lease) : Untouched c (c.shutdown l).2.2 := by
  unfold shutdown
  split
  · exact ⟨rfl, rfl⟩
  · simp only
    split
    · exact ⟨rfl, rfl⟩
    · exact ⟨rfl, rfl⟩

theorem untouched_release (c : Cloud) (l : Lease) : Untouched c (c.release l).2.2 := by
  unfold release
  split
  · exact .refl c
  · exact c.untouched_shutdown _

theorem untouched_releaseOrWarn (c : Cloud) (l : Lease) (warning : String) :
    Untouched c (c.releaseOrWarn l warning).2 := by
  have hrelease := c.untouched_release l
  unfold releaseOrWarn
  split
  · next heq =>
    rw [heq] at hrelease
    exact hrelease
  · next heq =>
    rw [heq] at hrelease
    exact hrelease.trans (untouched_report _ _)

theorem untouched_drop (c : Cloud) (l : Lease) : Untouched c (c.drop l) := by
  unfold drop
  split
  · exact .refl c
  · exact c.untouched_releaseOrWarn l _

theorem untouched_finish (c : Cloud) (l : Lease) (succeeded : Bool) :
    Untouched c (c.finish l succeeded) :=
  (c.untouched_releaseOrWarn l _).trans (untouched_drop _ _)

/-! ### The end of a lease -/

/-- **A provider after the one release of a client**, which is reported if it fails. -/
def afterRelease (c : Cloud) (warning : String) : Cloud :=
  let c := { c with openClients := c.openClients - 1 }
  if c.faults.releases then (c.record .shutdown (some releaseFailure)).report (.warn warning)
  else c.record .shutdown none

variable {c : Cloud} {l : Lease}

/-- The first shutdown of a client takes it off the count. -/
theorem shutdown_of_open (h : l.client.closed = false) :
    c.shutdown l = (if c.faults.releases then .error releaseFailure else .ok (),
      { l with client := ⟨true⟩ },
      { c with openClients := c.openClients - 1 }.record .shutdown
        (if c.faults.releases then some releaseFailure else none)) := by
  rw [shutdown, h]
  cases hr : c.faults.releases with
  | true => simp [hr]
  | false => simp [hr]

/-- Any other is recorded and nothing else. -/
theorem shutdown_of_closed (h : l.client.closed = true) :
    c.shutdown l = (.ok (), l, c.record .shutdown none) := by
  rw [shutdown, if_pos h]

/-- A release that is reported if it fails leaves a lease that has released its client. -/
theorem releaseOrWarn_of_fresh (h : l.Fresh) (warning : String) :
    ∃ l', c.releaseOrWarn l warning = (l', c.afterRelease warning) ∧ l'.released = true := by
  refine ⟨{ l with released := true, client := ⟨true⟩ }, ?_, rfl⟩
  have hopen : ({ l with released := true } : Lease).client.closed = false := h.client
  rw [releaseOrWarn, release, if_neg (by simp [h.released]), shutdown_of_open hopen, afterRelease]
  cases hr : c.faults.releases with
  | true => simp
  | false => simp

/-- **The end of a lease in use releases its client once.** -/
theorem drop_of_fresh (h : l.Fresh) : c.drop l = c.afterRelease dropWarning := by
  obtain ⟨l', heq, _⟩ := releaseOrWarn_of_fresh (c := c) h dropWarning
  rw [drop, if_neg (by simp [h.released]), heq]

/-- The end of a lease whose client was shut down before takes nothing off the count. -/
theorem drop_of_closed (hreleased : l.released = false) (hclosed : l.client.closed = true) :
    c.drop l = c.record .shutdown none := by
  have hagain : ({ l with released := true } : Lease).client.closed = true := hclosed
  rw [drop, if_neg (by simp [hreleased]), releaseOrWarn, release, if_neg (by simp [hreleased]),
    shutdown_of_closed hagain]

/-- **An operation that finishes releases its client once**; the end of its lease, which follows,
finds nothing to do. -/
theorem finish_of_fresh (h : l.Fresh) (succeeded : Bool) :
    c.finish l succeeded = c.afterRelease (finishWarning succeeded) := by
  obtain ⟨l', heq, hl'⟩ := releaseOrWarn_of_fresh (c := c) h (finishWarning succeeded)
  rw [finish, heq]
  simp only [drop, if_pos hl']

@[simp] theorem openClients_afterRelease (c : Cloud) (warning : String) :
    (c.afterRelease warning).openClients = c.openClients - 1 := by
  unfold afterRelease
  simp only
  split
  · rfl
  · rfl

@[simp] theorem acquired_afterRelease (c : Cloud) (warning : String) :
    (c.afterRelease warning).acquired = c.acquired := by
  unfold afterRelease
  simp only
  split
  · rfl
  · rfl

/-- The release is the last request. -/
theorem requests_afterRelease (c : Cloud) (warning : String) :
    (c.afterRelease warning).requests = c.requests ++
      [(.shutdown, if c.faults.releases then some releaseFailure else none)] := by
  unfold afterRelease
  simp only
  split
  · rfl
  · rfl

/-! ### Requests between the opening and the release -/

/-- **A provider after requests** that open and release nothing. -/
structure Asked (c c' : Cloud) : Prop where
  openClients : c'.openClients = c.openClients
  acquired : c'.acquired = c.acquired
  requests : ∃ rs, c'.requests = c.requests ++ rs ∧ ∀ r ∈ rs, r.1 ≠ .shutdown

theorem Asked.refl (c : Cloud) : Asked c c := ⟨rfl, rfl, [], by simp, by simp⟩

theorem Asked.trans {c c' c'' : Cloud} (h : Asked c c') (h' : Asked c' c'') : Asked c c'' := by
  obtain ⟨rs, hrs, hall⟩ := h.requests
  obtain ⟨rs', hrs', hall'⟩ := h'.requests
  refine ⟨h'.openClients.trans h.openClients, h'.acquired.trans h.acquired, rs ++ rs', ?_, ?_⟩
  · rw [hrs', hrs, List.append_assoc]
  · intro r hr
    rcases List.mem_append.1 hr with hr | hr
    · exact hall r hr
    · exact hall' r hr

theorem asked_report (c : Cloud) (line : LogLine) : Asked c (c.report line) :=
  ⟨rfl, rfl, [], by simp [report], by simp⟩

theorem asked_takeScript (c : Cloud) : Asked c c.takeScript := by
  unfold takeScript
  split
  · exact .refl c
  · exact ⟨rfl, rfl, [], by simp, by simp⟩
  · exact ⟨rfl, rfl, [], by simp, by simp⟩

/-- A recorded request other than a release. -/
theorem asked_record (c : Cloud) {r : Request} (hr : r ≠ .shutdown) (failure : Option CloudError) :
    Asked c (c.record r failure) := by
  refine ⟨rfl, rfl, [(r, failure)], rfl, fun x hx => ?_⟩
  rw [List.mem_singleton.1 hx]
  exact hr

/-- A request opens and releases nothing, whether it fails or not. -/
theorem asked_attempt {α : Type} (c : Cloud) (r : Request) (hr : r ≠ .shutdown)
    (act : Store → Except CloudError (α × Store)) : Asked c (c.attempt r act).2 := by
  have htake : Asked c c.takeScript.takeFailure.2 :=
    c.asked_takeScript.trans ⟨rfl, rfl, [], by simp [takeFailure], by simp⟩
  unfold attempt
  generalize c.takeScript.takeFailure = taken at htake
  obtain ⟨_ | e, c'⟩ := taken
  · simp only
    split
    · next s _ =>
      have hstore : Asked c' { c' with store := s } := ⟨rfl, rfl, [], by simp, by simp⟩
      exact (htake.trans hstore).trans (asked_record _ hr _)
    · exact htake.trans (asked_record _ hr _)
  · exact htake.trans (asked_record _ hr _)

/-- **A provider after the opening of a client** and requests with it. -/
structure Begun (c c' : Cloud) : Prop where
  openClients : c'.openClients = c.openClients + 1
  acquired : c'.acquired = c.acquired + 1
  requests : ∃ rs, c'.requests = c.requests ++ rs ∧ ∀ r ∈ rs, r.1 ≠ .shutdown

theorem Begun.asked {c c' c'' : Cloud} (h : Begun c c') (h' : Asked c' c'') : Begun c c'' := by
  obtain ⟨rs, hrs, hall⟩ := h.requests
  have hasked : Asked { c with openClients := c.openClients + 1, acquired := c.acquired + 1 } c' :=
    ⟨h.openClients, h.acquired, rs, hrs, hall⟩
  have hboth := hasked.trans h'
  exact ⟨hboth.openClients, hboth.acquired, hboth.requests⟩

/-- The opening of a client fails if that was asked for, and nothing is counted then. -/
theorem open_of_some {e : CloudError} (h : c.faults.nextOpen = some e) (endpoint : String) :
    c.open endpoint = (.error e, { c with faults := { c.faults with nextOpen := none } }) := by
  rw [Cloud.open, h]

/-- Otherwise it gives a client in use. -/
theorem open_of_none (h : c.faults.nextOpen = none) (endpoint : String) :
    ∃ l c', c.open endpoint = (.ok l, c') ∧ l.Fresh ∧ Begun c c' := by
  refine ⟨{ endpoint }, (c.open endpoint).2, ?_, ⟨rfl, rfl⟩, ?_⟩
  · rw [Cloud.open, h]
  · rw [Cloud.open, h]
    exact ⟨rfl, rfl, [], by simp, by simp⟩

/-! ### Releases that fail -/

/-- **A provider whose releases fail, or do not**, and which is the same otherwise. -/
def withReleases (c : Cloud) (fail : Bool) : Cloud :=
  { c with faults := { c.faults with releases := fail } }

theorem foldl_report_withReleases (c : Cloud) (fail : Bool) (lines : List LogLine) :
    lines.foldl report (c.withReleases fail) = (lines.foldl report c).withReleases fail := by
  rw [foldl_report, foldl_report]
  rfl

theorem takeScript_withReleases (c : Cloud) (fail : Bool) :
    (c.withReleases fail).takeScript = c.takeScript.withReleases fail := by
  have hscript : (c.withReleases fail).faults.script = c.faults.script := rfl
  simp only [takeScript, hscript]
  rcases c.faults.script with _ | ⟨_ | e, rest⟩
  · rfl
  · rfl
  · rfl

theorem takeFailure_withReleases (c : Cloud) (fail : Bool) :
    (c.withReleases fail).takeFailure =
      (c.takeFailure.1, c.takeFailure.2.withReleases fail) := rfl

/-- A request is answered in the same way, whether releases fail or not. -/
theorem attempt_withReleases {α : Type} (c : Cloud) (fail : Bool) (r : Request)
    (act : Store → Except CloudError (α × Store)) :
    (c.withReleases fail).attempt r act =
      ((c.attempt r act).1, (c.attempt r act).2.withReleases fail) := by
  simp only [attempt, takeScript_withReleases, takeFailure_withReleases]
  generalize c.takeScript.takeFailure = taken
  obtain ⟨_ | e, c'⟩ := taken
  · have hstore : (c'.withReleases fail).store = c'.store := rfl
    simp only [hstore]
    cases act c'.store with
    | ok p => rfl
    | error e => rfl
  · rfl

/-- A client is opened in the same way, whether releases fail or not. -/
theorem open_withReleases (c : Cloud) (fail : Bool) (endpoint : String) :
    (c.withReleases fail).open endpoint =
      ((c.open endpoint).1, (c.open endpoint).2.withReleases fail) := by
  have hnext : (c.withReleases fail).faults.nextOpen = c.faults.nextOpen := rfl
  simp only [Cloud.open, hnext]
  cases c.faults.nextOpen with
  | none => rfl
  | some e => rfl

end Cloud

namespace Plan

variable {α : Type}

/-- **A step of a plan** opens and releases nothing. -/
theorem asked_step (p : Plan α) (c : Cloud) : c.Asked (p.step c).2 := by
  cases p with
  | done a => exact .refl c
  | report line next => exact c.asked_report line
  | describeGroups names next =>
      change c.Asked (c.describeGroups names).2
      exact c.asked_attempt _ (by simp) _
  | updateGroup update next =>
      change c.Asked (c.updateGroup update).2
      exact c.asked_attempt _ (by simp) _
  | changeIngress change group rule next =>
      change c.Asked (c.changeIngress change group rule).2
      exact c.asked_attempt _ (by simp) _
  | describeSecurityGroups names next =>
      change c.Asked (c.describeSecurityGroups names).2
      exact c.asked_attempt _ (by simp) _

/-- **No plan finds out whether releases fail.** -/
theorem step_withReleases (p : Plan α) (c : Cloud) (fail : Bool) :
    p.step (c.withReleases fail) = ((p.step c).1, (p.step c).2.withReleases fail) := by
  cases p with
  | done a => rfl
  | report line next => rfl
  | describeGroups names next =>
      rw [step, step, Cloud.describeGroups, Cloud.attempt_withReleases]
      rfl
  | updateGroup update next =>
      rw [step, step, Cloud.updateGroup, Cloud.attempt_withReleases]
      rfl
  | changeIngress change group rule next =>
      rw [step, step, Cloud.changeIngress, Cloud.attempt_withReleases]
      rfl
  | describeSecurityGroups names next =>
      rw [step, step, Cloud.describeSecurityGroups, Cloud.attempt_withReleases]
      rfl

/-- A plan that runs to its end opens and releases nothing. -/
theorem asked_run (p : Plan α) (c : Cloud) : c.Asked (p.run c).2 := by
  induction p generalizing c with
  | done a => exact .refl c
  | report line next ih => exact (asked_step (.report line next) c).trans (ih _)
  | describeGroups names next ih =>
      exact (asked_step (.describeGroups names next) c).trans (ih _ _)
  | updateGroup update next ih =>
      exact (asked_step (.updateGroup update next) c).trans (ih _ _)
  | changeIngress change group rule next ih =>
      exact (asked_step (.changeIngress change group rule next) c).trans (ih _ _)
  | describeSecurityGroups names next ih =>
      exact (asked_step (.describeSecurityGroups names next) c).trans (ih _ _)

/-- Nor does a plan that runs to its end find out whether releases fail. -/
theorem run_withReleases (p : Plan α) (c : Cloud) (fail : Bool) :
    p.run (c.withReleases fail) = ((p.run c).1, (p.run c).2.withReleases fail) := by
  induction p generalizing c with
  | done a => rfl
  | report line next ih => exact ih (c.report line)
  | describeGroups names next ih =>
      rw [← run_step, step_withReleases, ← run_step (.describeGroups names next) c]
      exact ih _ _
  | updateGroup update next ih =>
      rw [← run_step, step_withReleases, ← run_step (.updateGroup update next) c]
      exact ih _ _
  | changeIngress change group rule next ih =>
      rw [← run_step, step_withReleases, ← run_step (.changeIngress change group rule next) c]
      exact ih _ _
  | describeSecurityGroups names next ih =>
      rw [← run_step, step_withReleases, ← run_step (.describeSecurityGroups names next) c]
      exact ih _ _

end Plan

end NodeSidecar
