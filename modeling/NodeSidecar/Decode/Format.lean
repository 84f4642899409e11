/-
**Decoding from any format.**

A format says how the values of a document are read as texts, numbers, lists and so on, and what
fault arises when they are not.  The decoders of the library's types are written over a format,
so that each type has one decoder for all documents.

A record is decoded from its fields by name, in the order in which the document has them: the first
value that cannot be decoded decides, then the first required field that is missing.  Fields
that are not known are passed over.  Some formats also take a list of the fields in order.

Main definitions:

* `Decode.Format` — the operations of a format;
* `Decode.Field` — a field of a record with its decoder and its default;
* `Decode.record` — the decoder of a record;
* `Decode.list` — the decoder of a list;
* `Decode.choice` — the decoder of a choice by name;
* `Decode.tagged` — the decoder of a record that names its form in one of its fields.
-/

import NodeSidecar.Decode.Data

set_option autoImplicit false

namespace NodeSidecar.Decode

/-- The key of an entry: a name, or the number of a field. -/
inductive Key where
  | name (s : String)
  | index (n : Nat)
  deriving DecidableEq, Repr

/-- The entries of a record by key or its fields in order. -/
inductive Entries (δ : Type) where
  | keyed (entries : List (δ × δ))
  | ordered (fields : List δ)

/-- The name of a choice. -/
structure Variant where
  name : String
  /-- The check that no more than the name is given. -/
  finish : Decoded Unit
  /-- Whether a name that is not known is a fault of the value itself, not of the value around
  it. -/
  isOwn : Bool

/-- How the values of a document are read; where a fault needs words for what was expected, they
are given. -/
structure Format (δ : Type) where
  /-- A text. -/
  textAs : (expected : String) → δ → Decoded String
  /-- A whole number from 0 to `limit`. -/
  unsigned : (limit : Nat) → (expected : String) → δ → Decoded Nat
  /-- A truth value. -/
  bool : δ → Decoded Bool
  /-- The elements of a list. -/
  elements : δ → Decoded (List δ)
  /-- Whether the value stands for none. -/
  isNone : δ → Decoded Bool
  /-- The entries of a record. -/
  entries : (expected : String) → δ → Decoded (Entries δ)
  /-- The entries of a record whose form is one of several. -/
  formEntries : (expected : String) → δ → Decoded (Entries δ)
  /-- The key of an entry. -/
  key : δ → Decoded Key
  /-- The name of a choice. -/
  variant : δ → Decoded Variant
  /-- The value as far as it can be told without knowing its type. -/
  content : δ → Decoded Data
  /-- The fault of a list with `given` elements for a record of `fields` fields. -/
  excess : (fields given : Nat) → Fault
  /-- Notes the place of a value in a failure that has none. -/
  locate : δ → Failure → Failure

variable {δ : Type}

/-- A result whose failure is placed at a value. -/
def Format.at {α : Type} (f : Format δ) (d : δ) (r : Decoded α) : Decoded α :=
  r.mapError (f.locate d)

/-- A text of no special kind. -/
def Format.text (f : Format δ) (d : δ) : Decoded String := f.textAs "a string" d

/-- A field of a record; with a default it may be left out. -/
structure Field (δ α : Type) where
  name : String
  read : δ → Decoded α
  default? : Option α

/-- What a record has to know of a field while it reads the entries. -/
structure Slot (δ : Type) where
  name : String
  check : δ → Decoded Unit

/-- A field without its type. -/
def Field.slot {α : Type} (f : Field δ α) : Slot δ := ⟨f.name, fun d => (f.read d).map fun _ => ()⟩

/-- The fields found in a document, and the fault of leaving a field out. -/
structure Fields (δ : Type) where
  values : List (String × δ)
  missing : String → Fault

/-- The value of a field among those found. -/
def Field.get {α : Type} (f : Field δ α) (found : Fields δ) : Decoded α :=
  match found.values.lookup f.name with
  | some d => f.read d
  | none =>
    match f.default? with
    | some a => .ok a
    | none => fail (found.missing f.name)

/-- The slot that a key belongs to. -/
def slotOf? (slots : List (Slot δ)) : Key → Option (Slot δ)
  | .name s => slots.find? fun slot => slot.name == s
  | .index n => slots[n]?

/-- Reads the entries of a record in order; `seen` holds the fields found before. -/
def readEntries (f : Format δ) (slots : List (Slot δ)) :
    List (δ × δ) → List (String × δ) → Decoded (List (String × δ))
  | [], seen => .ok seen
  | (key, d) :: rest, seen => do
    match slotOf? slots (← f.key key) with
    | none => readEntries f slots rest seen
    | some slot =>
      if (seen.lookup slot.name).isSome then fail (.duplicateField slot.name)
      else
        slot.check d
        readEntries f slots rest ((slot.name, d) :: seen)

/-- Reads the fields of a record that are given in order. -/
def readOrdered : List (Slot δ) → List δ → Decoded (List (String × δ))
  | slot :: slots, d :: ds => do
    slot.check d
    return (slot.name, d) :: (← readOrdered slots ds)
  | _, _ => .ok []

/-- A number of fields, in words. -/
def recordLength (type : String) (n : Nat) : String :=
  "struct " ++ type ++ " with " ++ toString n ++ (if n = 1 then " element" else " elements")

/-- The record called `type` in messages, built from the fields found. -/
def record {α : Type} (f : Format δ) (type : String) (slots : List (Slot δ)) (d : δ)
    (build : Fields δ → Decoded α) : Decoded α :=
  f.at d do
    match ← f.entries ("struct " ++ type) d with
    | .keyed entries => build ⟨← readEntries f slots entries [], .missingField⟩
    | .ordered fields =>
      let place (name : String) : Nat := slots.findIdx fun slot => slot.name == name
      let values ← readOrdered slots fields
      let a ← build ⟨values, fun name => .invalidLength (place name)
        (recordLength type slots.length)⟩
      if slots.length < fields.length then fail (f.excess slots.length fields.length) else .ok a

/-- A list, each element decoded by `read`. -/
def list {α : Type} (f : Format δ) (read : δ → Decoded α) (d : δ) : Decoded (List α) :=
  f.at d do (← f.elements d).mapM read

/-- A value, or none. -/
def option {α : Type} (f : Format δ) (read : δ → Decoded α) (d : δ) : Decoded (Option α) := do
  if ← f.isNone d then return none
  return some (← read d)

/-- One of the named values. -/
def choice {α : Type} (f : Format δ) (named : List (String × α)) (d : δ) : Decoded α := do
  let v ← f.at d (f.variant d)
  match named.lookup v.name with
  | some a => f.at d (v.finish.map fun _ => a)
  | none =>
    let unknown : Decoded α := fail (.unknownVariant v.name (named.map Prod.fst))
    if v.isOwn then f.at d unknown else unknown

/-- Reads the entries of a record whose form the field `name` tells; `form?` is the form once it
was found, and `seen` holds the other entries, backwards. -/
def readForm {α : Type} (f : Format δ) (name : String) (readName : δ → Decoded α) :
    List (δ × δ) → (form? : Option α) → List (Data × Data) → Decoded (α × Data)
  | [], none, _ => fail (.missingField name)
  | [], some form, seen => .ok (form, .map seen.reverse)
  | (key, d) :: rest, form?, seen => do
    let key ← f.content key
    if key.text? = some name then
      if form?.isSome then fail (.duplicateField name)
      else readForm f name readName rest (some (← readName d)) seen
    else readForm f name readName rest form? ((key, ← f.content d) :: seen)

/-- A record called `type` in messages whose form the field `name` tells: the form, and the other
fields. -/
def tagged {α : Type} (f : Format δ) (type name : String) (readName : δ → Decoded α) (d : δ) :
    Decoded (α × Data) :=
  f.at d do
    match ← f.formEntries ("internally tagged enum " ++ type) d with
    | .keyed entries => readForm f name readName entries none []
    | .ordered [] => fail (.missingField name)
    | .ordered (first :: rest) =>
      let form ← readName first
      return (form, .list (← rest.mapM f.content))

/-! ### Document values as a format -/

/-- The key of an entry of a map. -/
def dataKey : Data → Decoded Key
  | .text s => .ok (.name s)
  | .int (.ofNat n) => .ok (.index n)
  | d => fail (.invalidType d.found "field identifier")

/-- The name of a choice: a text, or the only key of a map with a null value. -/
def dataVariant : Data → Decoded Variant
  | .text s => .ok ⟨s, .ok (), true⟩
  | .map [(.text s, .null)] => .ok ⟨s, .ok (), true⟩
  | .map [(.text s, d)] => .ok ⟨s, fail (.invalidType d.found "unit"), true⟩
  | .map _ => fail (.invalidValue .map "map with a single key")
  | d => fail (.invalidType d.found "string or map")

/-- The entries of a map, or the fields in order. -/
def dataEntries (expected : String) : Data → Decoded (Entries Data)
  | .map entries => .ok (.keyed entries)
  | .list ds => .ok (.ordered ds)
  | d => fail (.invalidType d.found expected)

/-- Document values as a format; only the words for a list that is too long are left open. -/
def Format.ofExcess (excess : Nat → Nat → Fault) : Format Data where
  textAs expected
    | .text s => .ok s
    | d => fail (.invalidType d.found expected)
  unsigned limit expected
    | .int n =>
      if 0 ≤ n ∧ n ≤ limit then .ok n.toNat else fail (.invalidValue (.int n) expected)
    | d => fail (.invalidType d.found expected)
  bool
    | .bool b => .ok b
    | d => fail (.invalidType d.found "a boolean")
  elements
    | .list ds => .ok ds
    | d => fail (.invalidType d.found "a sequence")
  isNone
    | .null => .ok true
    | _ => .ok false
  entries := dataEntries
  formEntries := dataEntries
  key := dataKey
  variant := dataVariant
  content := .ok
  excess := excess
  locate _ := id

/-- The values of a JSON document. -/
def Format.json : Format Data :=
  .ofExcess fun _ given => .invalidLength given "fewer elements in array"

/-- Values that were read from a document before their type was known. -/
def Format.data : Format Data :=
  .ofExcess fun fields given => .invalidLength given (toString fields ++ " elements in sequence")

end NodeSidecar.Decode
