/-
**The configuration of a sidecar.**

Main definitions:

* `SidecarConfig` — the configuration, with what is left out at its default;
* `SidecarConfig.toJson`, `SidecarConfig.decode` — its place in documents;
* `SidecarConfig.settings`, `SidecarConfig.healthTimer`, `SidecarConfig.auditTimer?` — what is made
  of it.
-/

import NodeSidecar.Config.Sections
import NodeSidecar.Membership.Basic

set_option autoImplicit false

namespace NodeSidecar

open Decode

/-- The configuration of a sidecar. -/
structure SidecarConfig where
  /-- What running processes are matched against. -/
  processName : String
  /-- The autoscaling group of the node's ring. -/
  ringName : String
  /-- The node's rac. -/
  rac? : Option String := none
  /-- All racs of the cluster. -/
  racs : List String := []
  /-- The security group of the ring. -/
  aclGroupName : String
  /-- The region. -/
  dc : String
  /-- The zone of timers that name none. -/
  timezone : String := "UTC"
  health : HealthSection := {}
  /-- The ring audit, unless there is none. -/
  audit? : Option AuditSection := none
  backup : BackupSection := {}
  scheduler : SchedulerSection := {}
  api : ApiSection := {}
  cloud : CloudSection := {}
  deriving DecidableEq

namespace SidecarConfig

variable {δ : Type}

/-- The JSON form of a configuration. -/
def toJson (c : SidecarConfig) : Json :=
  .object [("process_name", .str c.processName), ("ring_name", .str c.ringName),
    ("rac", .ofOption .str c.rac?), ("racs", .ofStrings c.racs),
    ("acl_group_name", .str c.aclGroupName), ("dc", .str c.dc), ("timezone", .str c.timezone),
    ("health", c.health.toJson), ("audit", .ofOption AuditSection.toJson c.audit?),
    ("backup", c.backup.toJson), ("scheduler", c.scheduler.toJson), ("api", c.api.toJson),
    ("cloud", c.cloud.toJson)]

/-- Decodes a configuration. -/
def decode (f : Format δ) (d : δ) : Decoded SidecarConfig :=
  let processName : Field δ String := ⟨"process_name", f.text, none⟩
  let ringName : Field δ String := ⟨"ring_name", f.text, none⟩
  let rac? : Field δ (Option String) := ⟨"rac", option f f.text, some none⟩
  let racs : Field δ (List String) := ⟨"racs", list f f.text, some []⟩
  let aclGroupName : Field δ String := ⟨"acl_group_name", f.text, none⟩
  let dc : Field δ String := ⟨"dc", f.text, none⟩
  let timezone : Field δ String := ⟨"timezone", f.text, some "UTC"⟩
  let health : Field δ HealthSection := ⟨"health", HealthSection.decode f, some {}⟩
  let audit? : Field δ (Option AuditSection) :=
    ⟨"audit", option f (AuditSection.decode f), some none⟩
  let backup : Field δ BackupSection := ⟨"backup", BackupSection.decode f, some {}⟩
  let scheduler : Field δ SchedulerSection := ⟨"scheduler", SchedulerSection.decode f, some {}⟩
  let api : Field δ ApiSection := ⟨"api", ApiSection.decode f, some {}⟩
  let cloud : Field δ CloudSection := ⟨"cloud", CloudSection.decode f, some {}⟩
  record f "SidecarConfig"
    [processName.slot, ringName.slot, rac?.slot, racs.slot, aclGroupName.slot, dc.slot,
      timezone.slot, health.slot, audit?.slot, backup.slot, scheduler.slot, api.slot, cloud.slot]
    d fun found => do
      return {
        processName := ← processName.get found
        ringName := ← ringName.get found
        rac? := ← rac?.get found
        racs := ← racs.get found
        aclGroupName := ← aclGroupName.get found
        dc := ← dc.get found
        timezone := ← timezone.get found
        health := ← health.get found
        audit? := ← audit?.get found
        backup := ← backup.get found
        scheduler := ← scheduler.get found
        api := ← api.get found
        cloud := ← cloud.get found }

/-- The identity of the node's ring. -/
def settings (c : SidecarConfig) : MembershipSettings :=
  { ringName := c.ringName, rac := c.rac?, racs := c.racs, aclGroupName := c.aclGroupName
    dc := c.dc }

/-- The timer of the health monitor. -/
def healthTimer (c : SidecarConfig) : Except TimerError Timer := c.health.timer.build c.timezone

/-- The timer of the ring audit, unless there is none. -/
def auditTimer? (c : SidecarConfig) : Option (Except TimerError Timer) :=
  c.audit?.map fun audit => audit.timer.build c.timezone

end SidecarConfig

end NodeSidecar
