/-
**Probes for processes.**

A probe lists the processes that match a pattern; an empty listing says that none does.  A command
probe runs a program with the pattern as its last argument.  A scripted probe gives prepared
answers, the last of them again and again, and empty listings if there are none.

Main definitions:

* `ProbeError` — how a probe fails, with its wording;
* `CommandProbe` — a program and its leading arguments;
* `ScriptedProbe`, `ScriptedProbe.list` — prepared answers.
-/

set_option autoImplicit false

namespace NodeSidecar

/-- How a probe fails. -/
inductive ProbeError where
  /-- The program cannot be started. -/
  | launch (program reason : String)
  /-- What the program wrote cannot be read. -/
  | read (reason : String)
  deriving DecidableEq, Repr

/-- The failure in words. -/
def ProbeError.message : ProbeError → String
  | .launch program reason => "failed to launch '" ++ program ++ "': " ++ reason
  | .read reason => "failed to read probe output: " ++ reason

/-- A listing, or a failure. -/
abbrev Listing := Except ProbeError String

/-- A program that lists processes, and its arguments before the pattern. -/
structure CommandProbe where
  program : String
  args : List String
  deriving DecidableEq, Repr

/-- The probe used when no program is given. -/
def CommandProbe.default : CommandProbe := ⟨"pgrep", ["-f"]⟩

/-- Prepared answers, and the patterns asked for so far. -/
structure ScriptedProbe where
  script : List Listing
  patterns : List String := []

namespace ScriptedProbe

/-- A prepared failure. -/
def failure (reason : String) : Listing := .error (.launch "scripted" reason)

/-- The answer to a pattern, and the probe after it. -/
def list (p : ScriptedProbe) (pattern : String) : Listing × ScriptedProbe :=
  let asked := { p with patterns := p.patterns ++ [pattern] }
  match p.script with
  | [] => (.ok "", asked)
  | [answer] => (answer, asked)
  | answer :: rest => (answer, { asked with script := rest })

end ScriptedProbe

end NodeSidecar
