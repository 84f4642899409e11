/-
**Carrying out commands.**

A command ends with an exit code and some output: zero, one for a failure, or two for arguments
without a meaning.  Only the command that runs the sidecar goes on, unless it fails.

Main definitions:

* `SidecarConfig.summary` — what is told about a valid configuration;
* `CommandLine.Result` — how a command ends, or that it goes on;
* `CommandLine.execute` — carries out a command on a file tree.
-/

import NodeSidecar.Backup.Manifest
import NodeSidecar.CommandLine.Arguments
import NodeSidecar.Config.Load
import NodeSidecar.Config.Node

set_option autoImplicit false

namespace NodeSidecar

/-- What is told about a valid configuration. -/
def SidecarConfig.summary (c : SidecarConfig) : List String :=
  let timerText : Except TimerError Timer → Option String
    | .ok t => some t.text
    | .error _ => none
  ["Configuration OK",
    "  Process: " ++ c.processName,
    "  Ring: " ++ c.ringName ++ " (" ++ toString c.racs.length ++ " rac(s))",
    "  ACL group: " ++ c.aclGroupName,
    "  Region: " ++ c.dc]
  ++ ((timerText c.healthTimer).toList.map fun t => "  Health monitor: " ++ t)
  ++ ["  Ring audit: " ++ ((c.auditTimer?.bind timerText).getD "disabled")]
  ++ (if c.api.enabled then ["  API: http://" ++ c.api.bindAddress] else [])

/-- Whether the interface can listen at its address at all. -/
def ApiSection.canListen (s : ApiSection) : Bool :=
  !s.enabled || s.host.toList.all fun c => c.toNat != 0

namespace CommandLine

/-- How a command ends, or that it goes on with a node. -/
inductive Result where
  | ended (code : Nat) (output : String)
  | running (node : Node)

/-- A failure, which gives no output. -/
def failed : Result := .ended 1 ""

/-- Lines of output. -/
def lines (ls : List String) : String := ls.foldl (fun acc l => acc ++ l ++ "\n") ""

/-- The configuration of a file. -/
def loaded (t : FileTree) (path : String) : Except ConfigError SidecarConfig :=
  SidecarConfig.load path (t.read (.ofText path))

/-- The materializer of a configuration; `temporary` is the directory for temporary files. -/
def materializer (temporary : String) (c : SidecarConfig) : Materializer :=
  ⟨.ofText (c.backup.directory?.getD temporary)⟩

/-- Runs the sidecar, its probe answering with what `listing` gives. -/
def start (listing : CommandProbe → Listing) (origin : Int) (c : SidecarConfig) : Result :=
  match c.node (listing c.health.probe) origin with
  | .error _ => failed
  | .ok n => if c.api.canListen then .running n else failed

/-- Carries out a command; the result comes with the file tree after it. -/
def execute (temporary : String) (listing : CommandProbe → Listing) (origin : Int)
    (t : FileTree) : Invocation → Result × FileTree
  | .misuse => (.ended 2 "", t)
  | .help topic => (.ended 0 topic.page.text, t)
  | .version => (.ended 0 versionText, t)
  | .validate config =>
    match loaded t config with
    | .error _ => (failed, t)
    | .ok c => (.ended 0 (lines c.summary), t)
  | .manifest config identifier? =>
    match loaded t config with
    | .error _ => (failed, t)
    | .ok c =>
      match (materializer temporary c).finalize identifier? t with
      | (.error _, t) => (failed, t)
      | (.ok path, t) => (.ended 0 (lines [path.text]), t)
  | .run config =>
    match loaded t config with
    | .error _ => (failed, t)
    | .ok c => (start listing origin c, t)

end CommandLine

end NodeSidecar
