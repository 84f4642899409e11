/-
**What is wrong with a value that is to be decoded.**

A fault names its cause; a failure adds the path to the value at fault, where the format keeps
track of it.  Formats differ in their word for an absent value and in the layout of numbers.

Main definitions:

* `Decode.Found` — the kind of value that was met;
* `Decode.Fault`, `Decode.Fault.message` — a cause and its wording;
* `Decode.Path` — the steps from the whole document to a value;
* `Decode.Failure`, `Decode.Decoded` — a fault with its place, and the result of decoding.
-/

import NodeSidecar.Number.Shortest
import NodeSidecar.Text.Quoted

set_option autoImplicit false

namespace NodeSidecar.Decode

/-- The kind of value that was met, as far as messages show it. -/
inductive Found where
  | null
  | bool (b : Bool)
  | int (n : Int)
  | real (x : Double)
  | text (s : String)
  | list
  | map
  | tagged
  deriving DecidableEq, Repr

/-- The words that depend on the format. -/
structure Wording where
  null : String
  real : Double → String

/-- The words used of JSON documents. -/
def Wording.json : Wording := ⟨"null", Double.text Double.jsonLayout⟩

/-- The words used of YAML documents. -/
def Wording.yaml : Wording := ⟨"unit value", Double.text Double.plainLayout⟩

/-- The words for what was met. -/
def Found.words (w : Wording) : Found → String
  | .null => w.null
  | .bool b => "boolean `" ++ (if b then "true" else "false") ++ "`"
  | .int n => "integer `" ++ toString n ++ "`"
  | .real x => "floating point `" ++ w.real x ++ "`"
  | .text s => "string " ++ Text.quoted s
  | .list => "sequence"
  | .map => "map"
  | .tagged => "enum"

/-- Why a value cannot be decoded. -/
inductive Fault where
  /-- A value of the wrong kind. -/
  | invalidType (found : Found) (expected : String)
  /-- A value of the right kind that is not allowed. -/
  | invalidValue (found : Found) (expected : String)
  /-- A list of the wrong length. -/
  | invalidLength (length : Nat) (expected : String)
  /-- A choice that is not among the known ones. -/
  | unknownVariant (name : String) (known : List String)
  /-- A field that is left out. -/
  | missingField (name : String)
  /-- A field that is given twice. -/
  | duplicateField (name : String)
  /-- A value that fits none of the forms of a type. -/
  | noForm (type : String)
  /-- A tagged value where the tag plays no part. -/
  | unexpectedTag
  /-- A scalar that no value can hold. -/
  | unreadable
  /-- Lists and maps that are nested too deep. -/
  | tooDeep
  /-- Values that are referred to too often. -/
  | tooManyAliases
  deriving DecidableEq, Repr

/-- The choices that were expected, in words. -/
def choices : List String → String
  | [] => "there are no variants"
  | [a] => "expected `" ++ a ++ "`"
  | [a, b] => "expected `" ++ a ++ "` or `" ++ b ++ "`"
  | names => "expected one of " ++ ", ".intercalate (names.map fun n => "`" ++ n ++ "`")

/-- A fault in words. -/
def Fault.message (w : Wording) : Fault → String
  | .invalidType found expected =>
    "invalid type: " ++ found.words w ++ ", expected " ++ expected
  | .invalidValue found expected =>
    "invalid value: " ++ found.words w ++ ", expected " ++ expected
  | .invalidLength length expected =>
    "invalid length " ++ toString length ++ ", expected " ++ expected
  | .unknownVariant name known => "unknown variant `" ++ name ++ "`, " ++ choices known
  | .missingField name => "missing field `" ++ name ++ "`"
  | .duplicateField name => "duplicate field `" ++ name ++ "`"
  | .noForm type => "data did not match any variant of untagged enum " ++ type
  | .unexpectedTag => "untagged and internally tagged enums do not support enum input"
  | .unreadable => "scalar is out of range"
  | .tooDeep => "recursion limit exceeded"
  | .tooManyAliases => "repetition limit exceeded"

/-- A step from a value to one inside it. -/
inductive Step where
  | member (name : String)
  | element (index : Nat)
  /-- The member of a name that has no text. -/
  | unnamed
  deriving DecidableEq, Repr

/-- The steps from the whole document to a value, the last step first. -/
abbrev Path := List Step

/-- A path in words; the whole document is a point. -/
def Path.text : List Step → String
  | [] => "."
  | .element index :: outer => Path.text outer ++ "[" ++ toString index ++ "]"
  | .member name :: [] => name
  | .member name :: outer => Path.text outer ++ "." ++ name
  | .unnamed :: [] => "?"
  | .unnamed :: outer => Path.text outer ++ ".?"

/-- A fault with the path to the value it was found in, once that is known. -/
structure Failure where
  fault : Fault
  path? : Option Path
  deriving DecidableEq, Repr

/-- The result of decoding. -/
abbrev Decoded (α : Type) := Except Failure α

/-- A failure whose place is not known yet. -/
def fail {α : Type} (fault : Fault) : Decoded α := .error ⟨fault, none⟩

/-- Notes the path of a failure whose place is not known yet. -/
def Failure.locate (path : Path) (f : Failure) : Failure :=
  match f.path? with
  | none => { f with path? := some path }
  | some _ => f

/-- A failure in words, after the path to the value unless that is the whole document. -/
def Failure.message (w : Wording) (f : Failure) : String :=
  match f.path? with
  | none | some [] => f.fault.message w
  | some path => Path.text path ++ ": " ++ f.fault.message w

end NodeSidecar.Decode
