/-
**The program.**

Reads the arguments, the configuration file and the clocks, and carries out commands on the files
of the host.  Other programs cannot be started from here, so the probe of a running sidecar fails
and the managed process counts as not running.
-/

import NodeSidecar.CommandLine.Execute
import Std.Time.DateTime

set_option autoImplicit false

namespace NodeSidecar

/-- The bytes of a file, or why they cannot be read. -/
def readBytes (path : String) : IO (Except FileError (List UInt8)) := do
  try
    return .ok (← IO.FS.readBinFile path).toList
  catch
    | .noFileOrDirectory .. => return .error .notFound
    | .inappropriateType .. => return .error .isDirectory
    | _ => return .error .notDirectory

/-- Performs a step on the files of a directory. -/
def FileStep.perform (directory : FilePath) : FileStep → IO Unit
  | .create name => do (← IO.FS.Handle.mk (directory.child name).text .writeNew).flush
  | .write name bytes => IO.FS.writeBinFile (directory.child name).text ⟨bytes.toArray⟩
  | .sync _ => return ()
  | .clear name => do
    try IO.FS.removeFile (directory.child name).text
    catch
      | .noFileOrDirectory .. => return ()
      | e => throw e
  | .rename name newName =>
    IO.FS.rename (directory.child name).text (directory.child newName).text

/-- Makes a temporary file and performs steps on it; it goes if one of them fails. -/
def performAll (directory : FilePath) (temporary : String) (steps : List FileStep) : IO Unit := do
  FileStep.perform directory (.create temporary)
  try steps.forM (FileStep.perform directory)
  catch e =>
    FileStep.perform directory (.clear temporary)
    throw e

/-- Ends with a message on what failed. -/
def giveUp (message : String) : IO UInt32 := do
  IO.eprintln ("Error: " ++ message)
  return 1

/-- Writes an empty manifest and tells its path. -/
def writeManifest (m : Materializer) (identifier? : Option String) : IO UInt32 := do
  match Manifest.stem identifier? with
  | .error e => giveUp e.message
  | .ok stem =>
    let temporary := Manifest.temporaryName stem (Text.padded 6 (← IO.rand 0 999999))
    let name := Manifest.fileName stem
    try
      performAll m.directory temporary (Manifest.steps temporary name (Text.utf8Bytes "[]"))
      IO.println (m.directory.child name).text
      return 0
    catch e => giveUp (toString e)

/-- Lets a node live on the clock of the host, which showed `before` at the last look. -/
partial def live (n : Node) (before : Nat) : IO Unit := do
  let (_, reports, n) := n.take
  reports.forM fun line => IO.println line.text
  (← IO.getStdout).flush
  IO.sleep (UInt32.ofNat (min n.period 60000))
  let now ← IO.monoMsNow
  live (n.pass (now - before)) now

/-- Runs a sidecar. -/
def runSidecar (c : SidecarConfig) : IO UInt32 := do
  let now ← Std.Time.Timestamp.now
  let refused (p : CommandProbe) : Listing := .error (.launch p.program "not supported")
  match CommandLine.start refused now.toNanosecondsSinceUnixEpoch.val c with
  | .ended _ _ => giveUp "the sidecar cannot be started"
  | .running n =>
    match n.boot with
    | .error _ => giveUp "a timer has no next instant"
    | .ok n =>
      live n (← IO.monoMsNow)
      return 0

/-- Goes on with the configuration of a file. -/
def withConfig (path : String) (act : SidecarConfig → IO UInt32) : IO UInt32 := do
  match SidecarConfig.load path (← readBytes path) with
  | .error e => giveUp e.message
  | .ok c => act c

/-- Carries out what is asked for. -/
def perform : CommandLine.Invocation → IO UInt32
  | .misuse => do
    IO.eprint CommandLine.Topic.program.page.text
    return 2
  | .help topic => do
    IO.print topic.page.text
    return 0
  | .version => do
    IO.print CommandLine.versionText
    return 0
  | .validate path => withConfig path fun c => do
    IO.print (CommandLine.lines c.summary)
    return 0
  | .manifest path identifier? => withConfig path fun c => do
    let temporary := (← IO.getEnv "TMPDIR").getD "/tmp"
    writeManifest (CommandLine.materializer temporary c) identifier?
  | .run path => withConfig path runSidecar

end NodeSidecar

/-- The program. -/
def main (args : List String) : IO UInt32 :=
  NodeSidecar.perform (.ofArguments args)
