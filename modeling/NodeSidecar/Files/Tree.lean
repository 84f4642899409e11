/-
**File trees.**

A tree says what every path leads to: a file with its bytes, a directory, or nothing.  What is done
to the files of one directory is a sequence of steps, each of which may fail.

Main definitions:

* `FileTree`, `FileTree.get?` — a tree and what a path leads to;
* `FileTree.put`, `FileTree.erase` — the changes that all others are made of;
* `FileTree.read`, `FileTree.list` — the bytes of a file and the names in a directory;
* `FileError` — why a step fails;
* `FileStep`, `FileStep.apply`, `FileStep.run` — a step on a file of a directory, its effect, and
  the effect of several steps up to the first that fails.

Main results:

* `FileTree.get?_put`, `FileTree.get?_erase` — the changes as they show in `get?`.
-/

import NodeSidecar.Files.Path
import NodeSidecar.Text.Utf8

set_option autoImplicit false

namespace NodeSidecar

/-- What a path leads to. -/
inductive FileNode where
  | file (bytes : List UInt8)
  | directory
  deriving DecidableEq, Repr

/-- The text of a file, if it has one. -/
def FileNode.text? : FileNode → Option String
  | .file bytes => (Text.ofUtf8 bytes).toOption
  | .directory => none

/-- Why a step on files fails. -/
inductive FileError where
  | notFound
  | notDirectory
  | isDirectory
  | nameTooLong
  | nulInName
  | alreadyExists
  deriving DecidableEq, Repr

/-- The failure in words. -/
def FileError.message : FileError → String
  | .notFound => "No such file or directory (os error 2)"
  | .notDirectory => "Not a directory (os error 20)"
  | .isDirectory => "Is a directory (os error 21)"
  | .nameTooLong => "File name too long (os error 36)"
  | .nulInName => "file name contained an unexpected NUL byte"
  | .alreadyExists => "File exists (os error 17)"

/-- A file tree: what the names on the way of a path lead to. -/
structure FileTree where
  entries : List (List String × FileNode)

namespace FileTree

/-- What some names lead to. -/
def get? (t : FileTree) (names : List String) : Option FileNode := t.entries.lookup names

/-- The tree without what some names lead to. -/
def erase (t : FileTree) (names : List String) : FileTree :=
  ⟨t.entries.filter fun e => names != e.1⟩

/-- The tree in which some names lead to the given node. -/
def put (t : FileTree) (names : List String) (node : FileNode) : FileTree :=
  ⟨(names, node) :: (t.erase names).entries⟩

@[simp] theorem get?_erase (t : FileTree) (p q : List String) :
    (t.erase p).get? q = if q = p then none else t.get? q := by
  obtain ⟨entries⟩ := t
  simp only [erase, get?]
  induction entries with
  | nil => simp
  | cons e rest ih =>
    obtain ⟨r, node⟩ := e
    by_cases hr : p = r
    · subst hr
      by_cases hq : q = p
      · simp_all
      · have hne : (q == p) = false := by simp [hq]
        simp_all only [List.lookup_cons]
        simp_all
    · by_cases hq : q = r
      · subst hq
        have : ¬q = p := fun h => hr h.symm
        simp_all
      · have hne : (q == r) = false := by simp [hq]
        have hkeep : (p != r) = true := by simp [hr]
        simp only [List.filter_cons, hkeep, if_true, List.lookup_cons, hne]
        exact ih

@[simp] theorem get?_put (t : FileTree) (p q : List String) (node : FileNode) :
    (t.put p node).get? q = if q = p then some node else t.get? q := by
  by_cases h : q = p
  · simp [get?, put, h]
  · have : (q == p) = false := by simp [h]
    simp only [get?, put, List.lookup_cons, this, h, if_false]
    exact (get?_erase t p q).trans (by simp [h, get?])

/-- Follows names through directories, `reached` being those followed before. -/
def follow (t : FileTree) : (reached names : List String) → Except FileError Unit
  | reached, names =>
    match t.get? reached with
    | none => .error .notFound
    | some (.file _) => .error .notDirectory
    | some .directory =>
      match names with
      | [] => .ok ()
      | name :: rest => t.follow (reached ++ [name]) rest

/-- Checks that names lead to a directory. -/
def enter (t : FileTree) (names : List String) : Except FileError Unit := t.follow [] names

/-- The bytes of a file. -/
def read (t : FileTree) (path : FilePath) : Except FileError (List UInt8) := do
  if path.text.contains (Char.ofNat 0) then throw .nulInName
  t.enter path.names.dropLast
  match t.get? path.names with
  | none => throw .notFound
  | some .directory => throw .isDirectory
  | some (.file bytes) => if path.namesDirectory then throw .notDirectory else return bytes

/-- The greatest number of bytes in a name. -/
def longestName : Nat := 255

/-- The place of a name in a directory. -/
def place (t : FileTree) (directory : List String) (name : String) :
    Except FileError (List String) := do
  if name.contains (Char.ofNat 0) then throw .nulInName
  t.enter directory
  if longestName < name.utf8ByteSize then throw .nameTooLong
  return directory ++ [name]

/-- The name of an entry, if it is in a directory. -/
def nameIn? (directory names : List String) : Option String :=
  if names.dropLast = directory then names.getLast? else none

/-- The names in a directory and what they lead to, in the order of the names. -/
def list (t : FileTree) (directory : List String) : List (String × FileNode) :=
  (t.entries.filterMap fun e => (nameIn? directory e.1).map fun name => (name, e.2)).mergeSort
    fun a b => !decide (b.1 < a.1)

/-- The tree with a file of the given bytes in place of any other. -/
def store (t : FileTree) (directory : List String) (name : String) (bytes : List UInt8) :
    Except FileError FileTree := do
  let p ← t.place directory name
  if t.get? p = some .directory then throw .isDirectory
  return t.put p (.file bytes)

/-- The tree without a file. -/
def removeFile (t : FileTree) (directory : List String) (name : String) :
    Except FileError FileTree := do
  let p ← t.place directory name
  match t.get? p with
  | none => throw .notFound
  | some .directory => throw .isDirectory
  | some (.file _) => return t.erase p

/-- Makes the directories on a way, `reached` being the part that is there. -/
def makeWay (t : FileTree) : (reached names : List String) → Except FileError FileTree
  | _, [] => .ok t
  | reached, name :: rest =>
    match t.get? (reached ++ [name]) with
    | none => (t.put (reached ++ [name]) .directory).makeWay (reached ++ [name]) rest
    | some .directory => t.makeWay (reached ++ [name]) rest
    | some (.file _) => .error (if rest = [] then .alreadyExists else .notDirectory)

/-- Makes a directory and those on the way to it, and tells whether it is there then.  A text
that ends in a point does not make the directory before the point. -/
def makeDirectories (t : FileTree) (path : FilePath) : Bool × FileTree :=
  let wanted := if path.endsInPoint then path.names.dropLast else path.names
  match t.makeWay [] wanted with
  | .error _ => (false, t)
  | .ok made => (made.get? path.names == some .directory, made)

end FileTree

/-- A step on the files of a directory. -/
inductive FileStep where
  /-- Makes an empty file that was not there. -/
  | create (name : String)
  /-- Fills a file. -/
  | write (name : String) (bytes : List UInt8)
  /-- Waits until a file is stored for good. -/
  | sync (name : String)
  /-- Removes a file if it is there. -/
  | clear (name : String)
  /-- Gives a file a new name, in place of any file of that name. -/
  | rename (name newName : String)
  deriving DecidableEq, Repr

namespace FileStep

/-- The file at a place. -/
def fileAt (t : FileTree) (p : List String) : Except FileError (List UInt8) :=
  match t.get? p with
  | none => .error .notFound
  | some .directory => .error .isDirectory
  | some (.file bytes) => .ok bytes

/-- The tree after a step on a directory. -/
def apply (directory : List String) (t : FileTree) : FileStep → Except FileError FileTree
  | create name => do
    let p ← t.place directory name
    if (t.get? p).isSome then throw .alreadyExists
    return t.put p (.file [])
  | write name bytes => do
    let p ← t.place directory name
    let _ ← fileAt t p
    return t.put p (.file bytes)
  | sync name => do
    let p ← t.place directory name
    let _ ← fileAt t p
    return t
  | clear name => do
    let p ← t.place directory name
    match t.get? p with
    | none => return t
    | some .directory => throw .isDirectory
    | some (.file _) => return t.erase p
  | rename name newName => do
    let p ← t.place directory name
    let q ← t.place directory newName
    let bytes ← fileAt t p
    if t.get? q = some .directory then throw .isDirectory
    return (t.erase p).put q (.file bytes)

/-- The outcome of some steps and the tree after the last one that did not fail. -/
def run (directory : List String) : List FileStep → FileTree → Except FileError Unit × FileTree
  | [], t => (.ok (), t)
  | s :: rest, t =>
    match s.apply directory t with
    | .error e => (.error e, t)
    | .ok t => run directory rest t

end FileStep

end NodeSidecar
