/-
**Backup manifests.**

A manifest is a JSON file that describes one backup unit.  It is written to a temporary file next
to its place and renamed, after the file that was there has been removed; if a step fails, the
temporary file goes.

Main definitions:

* `Materializer` — the directory that manifests are written to;
* `ManifestError` — why a manifest is not written, with its wording;
* `Manifest.stem`, `Materializer.destination` — the file name of a unit and its path;
* `Manifest.steps` — the steps that replace a manifest;
* `Materializer.finalize`, `Materializer.finalizeWith` — writing an empty manifest, or entries.
-/

import NodeSidecar.Files.Tree
import NodeSidecar.Json.Printer

set_option autoImplicit false

namespace NodeSidecar

/-- Why a manifest is not written. -/
inductive ManifestError where
  /-- A step on files failed. -/
  | file (path : String) (error : FileError)
  /-- The identifier of the unit gives no plain file name. -/
  | invalidIdentifier (identifier : String)
  /-- An entry has no JSON form. -/
  | unserializable (reason : String)
  deriving DecidableEq, Repr

/-- The failure in words. -/
def ManifestError.message : ManifestError → String
  | .file path error => "manifest I/O error at " ++ path ++ ": " ++ error.message
  | .invalidIdentifier identifier => "invalid manifest identifier: '" ++ identifier ++ "'"
  | .unserializable reason => "failed to serialize manifest: " ++ reason

namespace Manifest

/-- The stem of the manifest of the unit without an identifier. -/
def incrementalStem : String := "incrementalMeta"

/-- Whether an identifier is a plain file name. -/
def isPlain (identifier : String) : Bool :=
  identifier != "" && identifier != "." && identifier != ".."
    && !identifier.toList.any fun c => c == '/' || c == '\\'

/-- The stem of a unit. -/
def stem : Option String → Except ManifestError String
  | none => .ok incrementalStem
  | some identifier =>
    if isPlain identifier then .ok identifier else .error (.invalidIdentifier identifier)

/-- The file name of a stem. -/
def fileName (stem : String) : String := stem ++ ".json"

/-- The name of the temporary file of a stem. -/
def temporaryName (stem token : String) : String := stem ++ token ++ ".json"

/-- The steps from a temporary file that was just made to the manifest. -/
def steps (temporary name : String) (body : List UInt8) : List FileStep :=
  [.write temporary body, .sync temporary, .clear name, .rename temporary name]

/-- A token whose temporary name is not in use: the first of those numbered from zero. -/
def unusedToken (t : FileTree) (directory : List String) (stem : String) : String :=
  let token (n : Nat) : String := Text.padded 6 n
  let unused (n : Nat) : Bool := (t.get? (directory ++ [temporaryName stem (token n)])).isNone
  token (((List.range (t.entries.length + 1)).find? unused).getD 0)

/-- The body of a manifest with the given entries, each one with its JSON form or with the reason
why it has none. -/
def body (entries : List (Except String Json)) : Except ManifestError (List UInt8) := do
  let values ← (entries.mapM id).mapError .unserializable
  return Text.utf8Bytes (Json.arr values).compact

end Manifest

/-- Writes manifests into one directory. -/
structure Materializer where
  directory : FilePath
  deriving DecidableEq, Repr

namespace Materializer

/-- The path of the manifest of a unit. -/
def destination (m : Materializer) (identifier? : Option String) :
    Except ManifestError FilePath := do
  return m.directory.child (Manifest.fileName (← Manifest.stem identifier?))

/-- Writes a manifest by way of the temporary file that a token names. -/
def replace (m : Materializer) (token stem : String) (body : List UInt8) (t : FileTree) :
    Except ManifestError FilePath × FileTree :=
  let temporary := Manifest.temporaryName stem token
  let name := Manifest.fileName stem
  let path := m.directory.child name
  match (FileStep.create temporary).apply m.directory.names t with
  | .error e => (.error (.file m.directory.text e), t)
  | .ok t =>
    match FileStep.run m.directory.names (Manifest.steps temporary name body) t with
    | (.error e, t) => (.error (.file path.text e), t.erase (m.directory.names ++ [temporary]))
    | (.ok (), t) => (.ok path, t)

/-- Writes the manifest of a unit; a result is its path. -/
def write (m : Materializer) (identifier? : Option String) (body : List UInt8) (t : FileTree) :
    Except ManifestError FilePath × FileTree :=
  match Manifest.stem identifier? with
  | .error e => (.error e, t)
  | .ok stem => m.replace (Manifest.unusedToken t m.directory.names stem) stem body t

/-- Writes an empty manifest. -/
def finalize (m : Materializer) (identifier? : Option String) (t : FileTree) :
    Except ManifestError FilePath × FileTree :=
  m.write identifier? (Text.utf8Bytes "[]") t

/-- Writes a manifest with the given entries. -/
def finalizeWith (m : Materializer) (identifier? : Option String)
    (entries : List (Except String Json)) (t : FileTree) :
    Except ManifestError FilePath × FileTree :=
  match Manifest.body entries with
  | .error e => (.error e, t)
  | .ok body => m.write identifier? body t

end Materializer

end NodeSidecar
