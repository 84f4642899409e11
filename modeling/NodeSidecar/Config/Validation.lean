/-
**Valid configurations.**

A configuration is checked field by field in a fixed order; the first condition that does not hold
is reported.

Main definitions:

* `ConfigError` — why a configuration is refused, with its wording;
* `SidecarConfig.check` — the checks.
-/

import NodeSidecar.Config.Basic
import NodeSidecar.Files.Tree

set_option autoImplicit false

namespace NodeSidecar

/-- Why a file cannot be read as text. -/
inductive ReadError where
  | file (error : FileError)
  | notText
  deriving DecidableEq, Repr

/-- The failure in words. -/
def ReadError.message : ReadError → String
  | .file error => error.message
  | .notText => "stream did not contain valid UTF-8"

/-- Why a configuration is refused. -/
inductive ConfigError where
  | read (path : String) (error : ReadError)
  /-- The text is no document. -/
  | malformed
  /-- The document is no configuration. -/
  | undecodable (failure : Decode.Failure)
  | emptyField (name : String)
  | noRacs
  | unknownRac (rac : String) (racs : List String)
  | unknownTimezone (name : String)
  | invalidTimer (section_ : String) (error : TimerError)
  | zeroDuration (name : String)

/-- The failure in words. -/
def ConfigError.message : ConfigError → String
  | .read path error => "failed to read config '" ++ path ++ "': " ++ error.message
  | .malformed => "config parse error: malformed document"
  | .undecodable failure => "config parse error: " ++ failure.message .yaml
  | .emptyField name => "'" ++ name ++ "' must not be empty"
  | .noRacs => "racs must list at least one rac"
  | .unknownRac rac racs =>
    "rac '" ++ rac ++ "' is not one of the configured racs " ++ Text.quotedList racs
  | .unknownTimezone name => "unknown timezone '" ++ name ++ "'"
  | .invalidTimer section_ error =>
    "invalid timer for '" ++ section_ ++ "': " ++ error.message
  | .zeroDuration name => "'" ++ name ++ "' cannot be zero"

namespace SidecarConfig

/-- Refuses a text that is blank. -/
def requireText (name value : String) : Except ConfigError Unit :=
  if Text.allBlank value then .error (.emptyField name) else .ok ()

/-- Refuses a timer that cannot be built. -/
def requireTimer (section_ : String) : Except TimerError Timer → Except ConfigError Unit
  | .ok _ => .ok ()
  | .error e => .error (.invalidTimer section_ e)

/-- Refuses a duration of zero. -/
def requireTime (name : String) (value : UInt64) : Except ConfigError Unit :=
  if value = 0 then .error (.zeroDuration name) else .ok ()

/-- Refuses a rac that is not among the racs, of which there has to be one. -/
def requireRac (racs : List String) (rac? : Option String) : Except ConfigError Unit :=
  if racs.isEmpty then .error .noRacs
  else
    match rac? with
    | some rac => if racs.contains rac then .ok () else .error (.unknownRac rac racs)
    | none => .ok ()

/-- Checks a configuration. -/
def check (c : SidecarConfig) : Except ConfigError Unit := do
  requireText "process_name" c.processName
  requireText "ring_name" c.ringName
  requireText "acl_group_name" c.aclGroupName
  requireText "dc" c.dc
  requireRac c.racs c.rac?
  if (Zone.find? c.timezone).isNone then throw (.unknownTimezone c.timezone)
  requireTimer "health" c.healthTimer
  if let some timer := c.auditTimer? then requireTimer "audit" timer
  requireTime "scheduler.shutdown_timeout_secs" c.scheduler.shutdownSeconds
  requireTime "scheduler.tick_ms" c.scheduler.tickMillis
  if c.api.enabled then requireText "api.host" c.api.host

end SidecarConfig

end NodeSidecar
