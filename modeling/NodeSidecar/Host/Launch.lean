/-
**Starting programs.**

A program is a command of the host, by its name or by its path, or a file that cannot be started.

Main definitions:

* `Host.launch` — what a program leaves, or why it cannot be started;
* `CommandProbe.list` — the listing that a command probe gives.
-/

import NodeSidecar.Files.Tree
import NodeSidecar.Health.Probe
import NodeSidecar.Host.Shell

set_option autoImplicit false

namespace NodeSidecar

namespace Host

/-- Why a program cannot be started. -/
inductive LaunchError where
  | file (error : FileError)
  | permissionDenied
  | nulInArgument
  deriving DecidableEq, Repr

/-- The failure in words. -/
def LaunchError.message : LaunchError → String
  | .file error => error.message
  | .permissionDenied => "Permission denied (os error 13)"
  | .nulInArgument => "nul byte found in provided data"

/-- The files of the host that are no programs, and the directories of all files. -/
def files : FileTree :=
  ⟨[([], .directory), (["/"], .directory)] ++
    (["bin", "dev", "etc", "home", "proc", "root", "tmp", "usr", "var"].map fun name =>
      (["/", name], .directory)) ++
    [(["/", "usr", "bin"], .directory), (["/", "var", "tmp"], .directory)] ++
    (["passwd", "group", "hosts", "hostname"].map fun name => (["/", "etc", name], .file [])) ++
    [(["/", "dev", "null"], .file [])]⟩

/-- The directories that hold the commands. -/
def commandDirectories : List (List String) := [["/", "bin"], ["/", "usr", "bin"]]

/-- What a command of the host leaves. -/
def program? (name : String) (args : List String) : Option Finished :=
  match name, args with
  | "sh", "-c" :: script :: rest => some (Shell.run script (rest.headD "sh"))
  | "sh", _ => some { status := 2 }
  | _, _ => command? false name args []

/-- Why a file that is no command cannot be started. -/
def refusal (path : FilePath) : LaunchError :=
  match files.enter path.names.dropLast with
  | .error e => .file e
  | .ok _ => if (files.get? path.names).isSome then .permissionDenied else .file .notFound

/-- What a program leaves, or why it cannot be started. -/
def launch (program : String) (args : List String) : Except LaunchError Finished :=
  if (program :: args).any fun s => s.toList.any fun c => c.toNat == 0 then .error .nulInArgument
  else if program.toList.contains '/' then
    let path := FilePath.ofText program
    let known :=
      if commandDirectories.contains path.names.dropLast then path.names.getLast? else none
    match known.bind fun name => program? name args with
    | some done => .ok done
    | none => .error (refusal path)
  else
    match program? program args with
    | some done => .ok done
    | none => .error (.file .notFound)

end Host

/-- The listing for a pattern: the output of the program with the pattern as its last argument.
Its status does not matter. -/
def CommandProbe.list (p : CommandProbe) (pattern : String) : Listing :=
  match Host.launch p.program (p.args ++ [pattern]) with
  | .error e => .error (.launch p.program e.message)
  | .ok done =>
    match Text.ofUtf8 done.output with
    | .error fault => .error (.read fault.message)
    | .ok s => .ok s

end NodeSidecar
