/-
**The values of documents.**

A document whose type is not known is read as a value.  That fails where a scalar means nothing, a
tag is empty or a map has a key twice, and where lists and maps are nested too deep or aliases are
met too often.

Main definitions:

* `Data.keyText` — a text that two values share if and only if they are the same key;
* `Document.value?` — the value of a document.
-/

import NodeSidecar.Json.Printer
import NodeSidecar.Yaml.Grammar
import NodeSidecar.Yaml.Scalar

set_option autoImplicit false

namespace NodeSidecar

namespace Data

mutual

/-- A text that tells values apart as keys: the two zeros are one key, and the order of entries
does not matter. -/
def keyText : Data → String
  | .null => "null"
  | .bool b => if b then "true" else "false"
  | .int n => toString n
  | .real (.finite s m q) =>
    if m = 0 then "0.0" else "r" ++ (Double.finite s m q).text Double.plainLayout
  | .real x => "r" ++ x.text Double.plainLayout
  | .text s => Json.quote s
  | .list xs => "[" ++ ",".intercalate (keyTexts xs) ++ "]"
  | .map es =>
    let sorted := (entryTexts es).mergeSort fun a b => !decide (b < a)
    "\x7b" ++ ",".intercalate sorted ++ "\x7d"
  | .tagged tag v => "!" ++ Json.quote tag ++ keyText v

/-- The texts of the elements of a list. -/
def keyTexts : List Data → List String
  | [] => []
  | x :: xs => keyText x :: keyTexts xs

/-- The texts of the entries of a map. -/
def entryTexts : List (Data × Data) → List String
  | [] => []
  | (k, v) :: es => (keyText k ++ ":" ++ keyText v) :: entryTexts es

end

end Data

namespace Yaml

/-- The greatest depth of lists and maps inside one another. -/
def deepest : Nat := 128

/-- How often aliases may be met. -/
def Document.aliasLimit (d : Document) : Nat := d.size * 100

/-- A tag of its own as a value has it, unless it is empty. -/
def tagged? (tag? : Option String) (v : Data) : Option Data :=
  match Scalar.ownTag? tag? with
  | none => some v
  | some "" => none
  | some tag => some (.tagged tag v)

/-- Adds an entry to those before it, given backwards, unless its key is there. -/
def addEntry? (entries : List (Data × Data)) (key value : Data) : Option (List (Data × Data)) :=
  if entries.any fun e => e.1.keyText == key.keyText then none else some ((key, value) :: entries)

/-- The value of a node, and how many aliases may still be met.  A node is at most one alias away
from what decreases `depth`. -/
def Document.valueFrom? (d : Document) :
    Nat → (depth aliases : Nat) → Node → Option (Data × Nat)
  | 0, _, _, _ => none
  | fuel + 1, depth, aliases, node =>
    match node with
    | .alias_ anchor =>
      if aliases = 0 then none
      else (d.anchored? anchor).bind (d.valueFrom? fuel depth (aliases - 1))
    | .scalar tag? style s => do
      let v ← Scalar.value? tag? style s
      return (← tagged? tag? v, aliases)
    | .list tag? xs => do
      if depth = 0 then none
      let (vs, aliases) ← xs.foldlM (fun (vs, aliases) x => do
        let (v, aliases) ← d.valueFrom? fuel (depth - 1) aliases x
        return (v :: vs, aliases)) (([] : List Data), aliases)
      return (← tagged? tag? (.list vs.reverse), aliases)
    | .map tag? es => do
      if depth = 0 then none
      let (vs, aliases) ← es.foldlM (fun (vs, aliases) (k, x) => do
        let (key, aliases) ← d.valueFrom? fuel (depth - 1) aliases k
        let (v, aliases) ← d.valueFrom? fuel (depth - 1) aliases x
        return (← addEntry? vs key v, aliases)) (([] : List (Data × Data)), aliases)
      return (← tagged? tag? (.map vs.reverse), aliases)

/-- The value of a document; a document where nothing is written is null. -/
def Document.value? (d : Document) : Option Data :=
  match d.root? with
  | none => some .null
  | some node => (d.valueFrom? (2 * deepest + 4) deepest d.aliasLimit node).map Prod.fst

end Yaml

end NodeSidecar
