/-
**Nodes of YAML.**

A document is a node: a scalar, a list, a map or an alias of a node that was given an anchor.  An
anchor has a number, the count of different names before it; of nodes whose anchors have one
number the last to start counts.

Main definitions:

* `Node`, `Document` — nodes and documents;
* `Document.anchored?` — the node of an anchor.
-/

import NodeSidecar.Yaml.Token

set_option autoImplicit false

namespace NodeSidecar.Yaml

/-- A node. -/
inductive Node where
  | scalar (tag? : Option String) (style : Style) (text : String)
  | list (tag? : Option String) (elements : List Node)
  | map (tag? : Option String) (entries : List (Node × Node))
  | alias_ (anchor : Nat)
  deriving Inhabited, Repr

/-- The node of a place where nothing is written. -/
def Node.empty : Node := .scalar none .plain ""

/-- A node with an anchor: the number of the anchor, and the number of nodes and ends of nodes
before it. -/
structure Anchored where
  anchor : Nat
  start : Nat
  node : Node
  deriving Repr

/-- A document: its root, unless nothing is written, the nodes with anchors, and the number of
nodes and ends of nodes. -/
structure Document where
  root? : Option Node
  anchored : List Anchored
  size : Nat

/-- The last node to start of those with an anchor. -/
def Document.anchored? (d : Document) (anchor : Nat) : Option Node :=
  let found := d.anchored.filter fun a => a.anchor == anchor
  (found.foldl (fun (best : Option Anchored) a =>
    match best with
    | some b => if b.start ≤ a.start then some a else some b
    | none => some a) none).map Anchored.node

end NodeSidecar.Yaml
