/-
**YAML documents as a format.**

A value is a node with its place in the document.  Where a text is wanted, any scalar gives its
text.  Numbers and truth values have to be plain.  Where nothing is written, a list or a record may
be empty.  A choice is a text or a tag of its own.

Main definitions:

* `Cursor` — a node with its place;
* `Cursor.ofDocument` — the root of a document;
* `Format.yaml` — the format.
-/

import NodeSidecar.Decode.Format
import NodeSidecar.Yaml.Value

set_option autoImplicit false

namespace NodeSidecar.Decode

open Yaml

/-- A node with its place: the path to it, and how deep lists and maps may still be nested. -/
structure Cursor where
  document : Document
  path : Path
  depth : Nat
  node : Node

namespace Cursor

/-- The root of a document. -/
def ofDocument (d : Document) : Cursor := ⟨d, [], deepest, d.root?.getD .empty⟩

/-- The node itself in place of an alias. -/
def target (c : Cursor) : Node :=
  match c.node with
  | .alias_ anchor => (c.document.anchored? anchor).getD .empty
  | node => node

/-- Places a failure at the cursor. -/
def placed {α : Type} (c : Cursor) (r : Decoded α) : Decoded α := r.mapError (Failure.locate c.path)

/-- A node inside this one. -/
def inside (c : Cursor) (step : Step) (node : Node) : Cursor :=
  { c with path := step :: c.path, depth := c.depth - 1, node }

/-- The key of an entry, which is placed at the map. -/
def ofKey (c : Cursor) (node : Node) : Cursor := { c with depth := c.depth - 1, node }

/-- The step to the value of a key. -/
def stepTo : Node → Step
  | .scalar _ _ s => .member s
  | _ => .unnamed

/-- The elements of a list. -/
def children (c : Cursor) (nodes : List Node) : List Cursor :=
  nodes.mapIdx fun i node => c.inside (.element i) node

/-- The entries of a map. -/
def members (c : Cursor) (entries : List (Node × Node)) : List (Cursor × Cursor) :=
  entries.map fun (k, v) => (c.ofKey k, c.inside (stepTo k) v)

/-- The fault of a value of the wrong kind. -/
def mismatch {α : Type} (c : Cursor) (expected : String) : Decoded α :=
  match c.target with
  | .scalar tag? style s =>
    match Scalar.value? tag? style s with
    | some d => fail (.invalidType d.found expected)
    | none => fail .unreadable
  | .map _ _ => fail (.invalidType .map expected)
  | _ => fail (.invalidType .list expected)

/-- The text of a scalar that is plain, or literal with the tag of a kind. -/
def bareText? (c : Cursor) (kind : String) : Option String :=
  match c.target with
  | .scalar tag? style s =>
    if style = .plain ∨ (style = .literal ∧ tag? = some (Scalar.standardTag kind)) then some s
    else none
  | _ => none

/-- Whether nothing is written. -/
def isEmpty (c : Cursor) : Bool :=
  match c.target with
  | .scalar _ .plain s => s == ""
  | _ => false

/-- The tag of its own that a node has. -/
def ownTag? (c : Cursor) : Option String :=
  match c.target with
  | .scalar tag? _ _ | .list tag? _ | .map tag? _ => Scalar.ownTag? tag?
  | .alias_ _ => none

/-- The elements of a list. -/
def elements (c : Cursor) : Decoded (List Cursor) :=
  match c.target with
  | .list _ nodes => if c.depth = 0 then fail .tooDeep else .ok (c.children nodes)
  | _ => if c.isEmpty then .ok [] else c.mismatch "a sequence"

/-- The entries of a record. -/
def entries (expected : String) (c : Cursor) : Decoded (Entries Cursor) :=
  match c.target with
  | .map _ es => if c.depth = 0 then fail .tooDeep else .ok (.keyed (c.members es))
  | _ => if c.isEmpty then .ok (.keyed []) else c.mismatch expected

/-- The entries of a record whose form is one of several, or its fields in order. -/
def formEntries (expected : String) (c : Cursor) : Decoded (Entries Cursor) :=
  if c.ownTag?.isSome then fail (.invalidType .tagged expected)
  else
    match c.target with
    | .map _ es => if c.depth = 0 then fail .tooDeep else .ok (.keyed (c.members es))
    | .list _ nodes => if c.depth = 0 then fail .tooDeep else .ok (.ordered (c.children nodes))
    | _ => c.mismatch expected

/-- Whether the value stands for none.  Another text tagged as null is a fault. -/
def isNone (c : Cursor) : Decoded Bool :=
  match c.target with
  | .scalar none .plain s => .ok (s == "" || Scalar.isNull s)
  | .scalar (some tag) .plain s =>
    if tag ≠ Scalar.standardTag "null" then .ok false
    else if Scalar.isNull s then .ok true
    else fail (.invalidValue (.text s) "null")
  | _ => .ok false

/-- The check that nothing but null is written behind the tag of a choice. -/
def unit (c : Cursor) : Decoded Unit :=
  match c.target with
  | .scalar _ style s =>
    if style = .plain ∧ (s = "" ∨ Scalar.isNull s) then .ok ()
    else fail (.invalidValue (.text s) "null")
  | _ => c.mismatch "unit"

/-- The name of a choice. -/
def variant (c : Cursor) : Decoded Variant :=
  match c.ownTag? with
  | some tag => .ok ⟨tag, c.unit, c.node matches .alias_ _⟩
  | none =>
    match c.target with
    | .scalar _ _ s => .ok ⟨s, .ok (), true⟩
    | .map _ _ => fail (.invalidType .map "a YAML tag starting with '!'")
    | _ => fail (.invalidType .list "a YAML tag starting with '!'")

/-- The value of a node as far as it can be told without knowing its type, and how many aliases may
still be met. -/
def contentFrom (c : Cursor) : Nat → (aliases : Nat) → (path : Path) → (depth : Nat) → Node →
    Decoded (Data × Nat)
  | 0, _, _, _, _ => fail .tooDeep
  | fuel + 1, aliases, path, depth, node =>
    let here : Cursor := ⟨c.document, path, depth, node⟩
    here.placed <|
      match node with
      | .alias_ anchor =>
        if aliases = 0 then fail .tooManyAliases
        else contentFrom c fuel (aliases - 1) path depth ((c.document.anchored? anchor).getD .empty)
      | .scalar tag? style s =>
        if (Scalar.ownTag? tag?).isSome then fail .unexpectedTag
        else
          match Scalar.value? tag? style s with
          | some d => .ok (d, aliases)
          | none => fail .unreadable
      | .list tag? nodes => do
        if (Scalar.ownTag? tag?).isSome then fail .unexpectedTag
        if depth = 0 then fail .tooDeep
        let (ds, aliases) ← (nodes.mapIdx Prod.mk).foldlM (fun (ds, aliases) (i, x) => do
          let (d, aliases) ← contentFrom c fuel aliases (.element i :: path) (depth - 1) x
          return (d :: ds, aliases)) (([] : List Data), aliases)
        return (.list ds.reverse, aliases)
      | .map tag? es => do
        if (Scalar.ownTag? tag?).isSome then fail .unexpectedTag
        if depth = 0 then fail .tooDeep
        let (ds, aliases) ← es.foldlM (fun (ds, aliases) (k, x) => do
          let (key, aliases) ← contentFrom c fuel aliases path (depth - 1) k
          let (d, aliases) ← contentFrom c fuel aliases (stepTo k :: path) (depth - 1) x
          return ((key, d) :: ds, aliases)) (([] : List (Data × Data)), aliases)
        return (.map ds.reverse, aliases)

/-- The value of a node as far as it can be told without knowing its type.  A node is at most one
alias away from what decreases the depth. -/
def content (c : Cursor) : Decoded Data := do
  let (d, _) ← c.contentFrom (2 * deepest + 4) c.document.aliasLimit c.path c.depth c.node
  return d

end Cursor

/-- YAML documents as a format. -/
def Format.yaml : Format Cursor where
  textAs expected c :=
    c.placed <| match c.target with
      | .scalar _ _ s => .ok s
      | _ => c.mismatch expected
  unsigned limit expected c :=
    c.placed <| match (c.bareText? "int").bind (Scalar.natural? (UInt64.size - 1)) with
      | some n => if n ≤ limit then .ok n else fail (.invalidValue (.int n) expected)
      | none => c.mismatch expected
  bool c :=
    c.placed <| match (c.bareText? "bool").bind Scalar.bool? with
      | some b => .ok b
      | none => c.mismatch "a boolean"
  elements := Cursor.elements
  isNone := Cursor.isNone
  entries := Cursor.entries
  formEntries := Cursor.formEntries
  key c :=
    c.placed <| match c.target with
      | .scalar _ _ s => .ok (.name s)
      | _ => c.mismatch "field identifier"
  variant := Cursor.variant
  content := Cursor.content
  excess fields given :=
    .invalidLength given
      (if fields = 1 then "sequence of 1 element"
       else "sequence of " ++ toString fields ++ " elements")
  locate c := Failure.locate c.path

end NodeSidecar.Decode
