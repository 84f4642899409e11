/-
**The sections of a configuration.**

Each section has its defaults, a JSON form and a decoder over any format.

Main definitions:

* `HealthSection` — the timer and the program of the health monitor;
* `AuditSection` — the timer of the ring audit;
* `BackupSection` — the directory of manifests;
* `SchedulerSection` — overlap, shutdown and ticks;
* `ApiSection` — where the HTTP interface listens;
* `CloudSection` — the groups that an in-memory cloud starts with.
-/

import NodeSidecar.Cloud.Client
import NodeSidecar.Cloud.Document
import NodeSidecar.Config.TimerSection
import NodeSidecar.Health.Monitor
import NodeSidecar.Scheduler.Basic

set_option autoImplicit false

namespace NodeSidecar

open Decode

variable {δ : Type}

/-- The health monitor. -/
structure HealthSection where
  timer : TimerSection := .interval (UInt64.ofNat HealthMonitor.defaultInterval.wholeMillis)
  /-- The program in place of the usual one. -/
  probeProgram? : Option String := none
  deriving DecidableEq

namespace HealthSection

/-- The JSON form of the section. -/
def toJson (s : HealthSection) : Json :=
  .object [("timer", s.timer.toJson), ("probe_program", .ofOption .str s.probeProgram?)]

/-- Decodes the section. -/
def decode (f : Format δ) (d : δ) : Decoded HealthSection :=
  let usual : HealthSection := {}
  let timer : Field δ TimerSection := ⟨"timer", TimerSection.decode f, some usual.timer⟩
  let program? : Field δ (Option String) :=
    ⟨"probe_program", option f f.text, some usual.probeProgram?⟩
  record f "HealthConfig" [timer.slot, program?.slot] d fun found => do
    return ⟨← timer.get found, ← program?.get found⟩

/-- The probe of the monitor. -/
def probe (s : HealthSection) : CommandProbe :=
  match s.probeProgram? with
  | some program => ⟨program, ["-f"]⟩
  | none => .default

end HealthSection

/-- The ring audit. -/
structure AuditSection where
  timer : TimerSection
  deriving DecidableEq

namespace AuditSection

/-- The JSON form of the section. -/
def toJson (s : AuditSection) : Json := .object [("timer", s.timer.toJson)]

/-- Decodes the section. -/
def decode (f : Format δ) (d : δ) : Decoded AuditSection :=
  let timer : Field δ TimerSection := ⟨"timer", TimerSection.decode f, none⟩
  record f "AuditConfig" [timer.slot] d fun found => do return ⟨← timer.get found⟩

end AuditSection

/-- Backups. -/
structure BackupSection where
  /-- The directory of manifests, if it is not the one for temporary files. -/
  directory? : Option String := none
  deriving DecidableEq

namespace BackupSection

/-- The JSON form of the section. -/
def toJson (s : BackupSection) : Json := .object [("tmp_dir", .ofOption .str s.directory?)]

/-- Decodes the section. -/
def decode (f : Format δ) (d : δ) : Decoded BackupSection :=
  let directory? : Field δ (Option String) :=
    ⟨"tmp_dir", option f (f.textAs "path string"), some none⟩
  record f "BackupConfig" [directory?.slot] d fun found => do return ⟨← directory?.get found⟩

end BackupSection

/-- The scheduler. -/
structure SchedulerSection where
  overlap : OverlapPolicy := .skip
  shutdownSeconds : UInt64 := 30
  tickMillis : UInt64 := 250
  deriving DecidableEq

namespace SchedulerSection

/-- The JSON form of the section. -/
def toJson (s : SchedulerSection) : Json :=
  .object [("overlap", .str s.overlap.name),
    ("shutdown_timeout_secs", .ofNat s.shutdownSeconds.toNat),
    ("tick_ms", .ofNat s.tickMillis.toNat)]

/-- Decodes the section. -/
def decode (f : Format δ) (d : δ) : Decoded SchedulerSection :=
  let usual : SchedulerSection := {}
  let overlap : Field δ OverlapPolicy := ⟨"overlap", OverlapPolicy.decode f, some usual.overlap⟩
  let shutdown : Field δ UInt64 :=
    ⟨"shutdown_timeout_secs", amount f, some usual.shutdownSeconds⟩
  let tick : Field δ UInt64 := ⟨"tick_ms", amount f, some usual.tickMillis⟩
  record f "SchedulerConfig" [overlap.slot, shutdown.slot, tick.slot] d fun found => do
    return ⟨← overlap.get found, ← shutdown.get found, ← tick.get found⟩

/-- How long a shutdown waits for running fires. -/
def shutdownTimeout (s : SchedulerSection) : Duration := .ofSeconds s.shutdownSeconds.toNat

/-- The time between two ticks. -/
def tickInterval (s : SchedulerSection) : Duration := .ofMillis s.tickMillis.toNat

end SchedulerSection

/-- The HTTP interface. -/
structure ApiSection where
  enabled : Bool := true
  host : String := "127.0.0.1"
  port : UInt16 := 8575
  deriving DecidableEq

namespace ApiSection

/-- The JSON form of the section. -/
def toJson (s : ApiSection) : Json :=
  .object [("enabled", .bool s.enabled), ("host", .str s.host), ("port", .ofNat s.port.toNat)]

/-- Decodes the section. -/
def decode (f : Format δ) (d : δ) : Decoded ApiSection :=
  let usual : ApiSection := {}
  let enabled : Field δ Bool := ⟨"enabled", f.bool, some usual.enabled⟩
  let host : Field δ String := ⟨"host", f.text, some usual.host⟩
  let port : Field δ UInt16 := ⟨"port", Decode.port f, some usual.port⟩
  record f "ApiConfig" [enabled.slot, host.slot, port.slot] d fun found => do
    return ⟨← enabled.get found, ← host.get found, ← port.get found⟩

/-- The address to listen at. -/
def bindAddress (s : ApiSection) : String := s.host ++ ":" ++ toString s.port.toNat

end ApiSection

/-- The cloud, which is kept in memory. -/
structure CloudSection where
  groups : List AutoScalingGroup := []
  securityGroups : List SecurityGroup := []
  deriving DecidableEq

namespace CloudSection

/-- The name of the only form of a cloud. -/
def formName : String := "memory"

/-- The JSON form of the section. -/
def toJson (s : CloudSection) : Json :=
  .object [("type", .str formName), ("groups", .arr (s.groups.map AutoScalingGroup.toJson)),
    ("security_groups", .arr (s.securityGroups.map SecurityGroup.toJson))]

/-- Decodes the name of the form. -/
def decodeForm (f : Format δ) (d : δ) : Decoded Unit :=
  f.at d do
    let name ← f.textAs "variant identifier" d
    if name = formName then return () else fail (.unknownVariant name [formName])

/-- Decodes the fields. -/
def decodeFields (d : Data) : Decoded CloudSection :=
  let f := Format.data
  let groups : Field Data (List AutoScalingGroup) :=
    ⟨"groups", list f (AutoScalingGroup.decode f), some []⟩
  let securityGroups : Field Data (List SecurityGroup) :=
    ⟨"security_groups", list f (SecurityGroup.decode f), some []⟩
  record f "CloudConfig::Memory" [groups.slot, securityGroups.slot] d fun found => do
    return ⟨← groups.get found, ← securityGroups.get found⟩

/-- Decodes the section. -/
def decode (f : Format δ) (d : δ) : Decoded CloudSection := do
  let (_, fields) ← tagged f "CloudConfig" "type" (decodeForm f) d
  decodeFields fields

/-- The cloud that starts with the groups. -/
def cloud (s : CloudSection) : Cloud := { store := ⟨s.groups, s.securityGroups⟩ }

end CloudSection

end NodeSidecar
