/-
**The audit of the ring.**

An audit takes one snapshot and reports whether the ring has as many live members as it may have.
A failure is reported and gives no snapshot; an audit itself never fails.
-/

import NodeSidecar.Membership.Operation

set_option autoImplicit false

namespace NodeSidecar.Membership

/-- The name of the task that audits the ring. -/
def auditName : String := "ring-audit"

/-- What that task does, in words. -/
def auditDescription : String := "compares live ring members with ring capacity"

/-- The report on a snapshot. -/
def auditReport (s : Snapshot) : LogLine :=
  if s.belowCapacity then .warn "Ring is below capacity" else .info "Ring at capacity"

/-- The report on an audit that has no snapshot. -/
def auditFailure : LogLine := .warn "Ring audit failed, retrying on next fire"

/-- What an audit makes of its snapshot, or of the failure to take one. -/
def conclude : Except MembershipError Snapshot → Option Snapshot × LogLine
  | .ok snapshot => (some snapshot, auditReport snapshot)
  | .error _ => (none, auditFailure)

/-- Audits the ring. -/
def audit (s : MembershipSettings) (c : Cloud) : Option Snapshot × Cloud :=
  let (result, c) := (snapshot s).run c
  let (snapshot?, line) := conclude result
  (snapshot?, c.report line)

end NodeSidecar.Membership
