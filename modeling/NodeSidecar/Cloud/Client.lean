/-
**Clients of a provider.**

Every operation works through a client opened for it.  A lease owns a client and releases it once:
when the operation finishes, whatever its result, or when the lease is dropped.  A release that
fails is reported and changes no result.  A client for its part can be shut down any number of
times; the first time counts.

The provider counts its clients, notes the endpoints they were opened against and can be told to
fail: the next request, every release, the next opening, or each of the coming requests by a
script.  It keeps a record of the requests made and of the reports about releases.

Main definitions:

* `Cloud` — a store with its clients, the failures asked for and the records;
* `Request` — a request, as recorded;
* `Cloud.attempt` — one request, which fails if that was asked for;
* `Client`, `Lease` — a client, and what owns it;
* `Cloud.open`, `Cloud.shutdown`, `Cloud.release`, `Cloud.finish`, `Cloud.drop` — the life of both.
-/

import NodeSidecar.Cloud.Store
import NodeSidecar.Log

set_option autoImplicit false

namespace NodeSidecar

/-- The direction of a change of permissions. -/
inductive IngressChange where
  | authorize
  | revoke
  deriving DecidableEq, Repr

/-- A request to the provider, as recorded. -/
inductive Request where
  | describeGroups (names : List String)
  | updateGroup (update : CapacityUpdate)
  | changeIngress (change : IngressChange) (group : String) (rule : IngressRule)
  | describeSecurityGroups (names : List String)
  | shutdown
  deriving DecidableEq

/-- The failures asked for. -/
structure Faults where
  nextRequest : Option CloudError := none
  releases : Bool := false
  nextOpen : Option CloudError := none
  /-- For each of the coming requests the failure asked for before it, if any. -/
  script : List (Option CloudError) := []
  deriving DecidableEq, Inhabited

/-- A provider in use. -/
structure Cloud where
  store : Store
  faults : Faults := {}
  openClients : Int := 0
  acquired : Nat := 0
  endpoints : List String := []
  /-- The requests made, with their failures. -/
  requests : List (Request × Option CloudError) := []
  /-- The reports made. -/
  log : List LogLine := []
  deriving Inhabited

/-- A client, which may have been shut down. -/
structure Client where
  closed : Bool := false
  deriving DecidableEq, Repr

/-- A lease of a client that was opened against an endpoint, and whether it has released it. -/
structure Lease where
  endpoint : String
  client : Client := {}
  released : Bool := false
  deriving DecidableEq, Repr

namespace Cloud

/-- Adds a report. -/
def report (c : Cloud) (line : LogLine) : Cloud := { c with log := c.log ++ [line] }

/-- Records a request. -/
def record (c : Cloud) (r : Request) (failure : Option CloudError) : Cloud :=
  { c with requests := c.requests ++ [(r, failure)] }

/-- Takes the next entry of the script; a failure in it is asked for of the next request. -/
def takeScript (c : Cloud) : Cloud :=
  match c.faults.script with
  | [] => c
  | none :: rest => { c with faults := { c.faults with script := rest } }
  | some e :: rest => { c with faults := { c.faults with script := rest, nextRequest := some e } }

/-- The failure asked for of the next request, which is asked for no longer. -/
def takeFailure (c : Cloud) : Option CloudError × Cloud :=
  (c.faults.nextRequest, { c with faults := { c.faults with nextRequest := none } })

/-- One request: it fails if that was asked for, and otherwise does as the store does. -/
def attempt {α : Type} (c : Cloud) (r : Request) (act : Store → Except CloudError (α × Store)) :
    Except CloudError α × Cloud :=
  match c.takeScript.takeFailure with
  | (some e, c) => (.error e, c.record r (some e))
  | (none, c) =>
    match act c.store with
    | .ok (a, s) => (.ok a, { c with store := s }.record r none)
    | .error e => (.error e, c.record r (some e))

/-- The autoscaling groups of the given names. -/
def describeGroups (c : Cloud) (names : List String) :
    Except CloudError (List AutoScalingGroup) × Cloud :=
  c.attempt (.describeGroups names) fun s => .ok (s.describeGroups names, s)

/-- Sets the limits of a group. -/
def updateGroup (c : Cloud) (u : CapacityUpdate) : Except CloudError Unit × Cloud :=
  c.attempt (.updateGroup u) fun s => (s.updateGroup u).map fun s => ((), s)

/-- Adds or removes a permission. -/
def changeIngress (c : Cloud) (change : IngressChange) (group : String) (rule : IngressRule) :
    Except CloudError Unit × Cloud :=
  c.attempt (.changeIngress change group rule) fun s =>
    match change with
    | .authorize => (s.authorize group rule).map fun s => ((), s)
    | .revoke => (s.revoke group rule).map fun s => ((), s)

/-- The security groups of the given names. -/
def describeSecurityGroups (c : Cloud) (names : List String) :
    Except CloudError (List SecurityGroup) × Cloud :=
  c.attempt (.describeSecurityGroups names) fun s =>
    (s.describeSecurityGroups names).map fun gs => (gs, s)

/-! ### The life of a client -/

/-- Opens a client, unless that is to fail. -/
def «open» (c : Cloud) (endpoint : String) : Except CloudError Lease × Cloud :=
  match c.faults.nextOpen with
  | some e => (.error e, { c with faults := { c.faults with nextOpen := none } })
  | none =>
    (.ok { endpoint }, { c with
      endpoints := c.endpoints ++ [endpoint]
      acquired := c.acquired + 1
      openClients := c.openClients + 1 })

/-- The failure of a release. -/
def releaseFailure : CloudError := .transport "client shutdown failed"

/-- Shuts the client of a lease down; only the first time does anything. -/
def shutdown (c : Cloud) (l : Lease) : Except CloudError Unit × Lease × Cloud :=
  if l.client.closed then (.ok (), l, c.record .shutdown none)
  else
    let c := { c with openClients := c.openClients - 1 }
    let l := { l with client := ⟨true⟩ }
    if c.faults.releases then (.error releaseFailure, l, c.record .shutdown (some releaseFailure))
    else (.ok (), l, c.record .shutdown none)

/-- Releases the client of a lease that has not released it yet. -/
def release (c : Cloud) (l : Lease) : Except CloudError Unit × Lease × Cloud :=
  if l.released then (.ok (), l, c) else c.shutdown { l with released := true }

/-- A release whose failure is reported. -/
def releaseOrWarn (c : Cloud) (l : Lease) (warning : String) : Lease × Cloud :=
  match c.release l with
  | (.ok (), l, c) => (l, c)
  | (.error _, l, c) => (l, c.report (.warn warning))

/-- The report on the failure of a release at the end of a lease. -/
def dropWarning : String := "Failed to release provider client on drop"

/-- The report on the failure of a release after an operation. -/
def finishWarning (succeeded : Bool) : String :=
  if succeeded then "Failed to release provider client"
  else "Failed to release provider client after failed call"

/-- The end of a lease, which releases its client unless that was done. -/
def drop (c : Cloud) (l : Lease) : Cloud :=
  if l.released then c else (c.releaseOrWarn l dropWarning).2

/-- Releases the client of an operation that has succeeded or failed, and ends the lease. -/
def finish (c : Cloud) (l : Lease) (succeeded : Bool) : Cloud :=
  let (l, c) := c.releaseOrWarn l (finishWarning succeeded)
  c.drop l

end Cloud

end NodeSidecar
