/-
**Document values.**

What decoding works on when a value has to be looked at before its type is known: a scalar of the
kind it was recognised as, a list, a map whose keys may be any values, or a value with a tag.

Main definitions:

* `Data` — the values;
* `Data.found` — the kind of a value in messages;
* `Data.ofJson` — a JSON value.
-/

import NodeSidecar.Decode.Fault
import NodeSidecar.Json.Basic

set_option autoImplicit false

namespace NodeSidecar

/-- A document value. -/
inductive Data where
  | null
  | bool (b : Bool)
  | int (n : Int)
  | real (x : Double)
  | text (s : String)
  | list (elements : List Data)
  | map (entries : List (Data × Data))
  | tagged (tag : String) (value : Data)
  deriving Inhabited, Repr

namespace Data

/-- The kind of a value. -/
def found : Data → Decode.Found
  | null => .null
  | bool b => .bool b
  | int n => .int n
  | real x => .real x
  | text s => .text s
  | list _ => .list
  | map _ => .map
  | tagged _ _ => .tagged

/-- The text of a text value. -/
def text? : Data → Option String
  | text s => some s
  | _ => none

mutual

/-- A JSON value as document value. -/
def ofJson : Json → Data
  | .null => .null
  | .bool b => .bool b
  | .int n => .int n
  | .real x => .real x
  | .str s => .text s
  | .arr xs => .list (ofElements xs)
  | .obj ms => .map (ofMembers ms)

/-- The elements of a JSON array. -/
def ofElements : List Json → List Data
  | [] => []
  | x :: xs => ofJson x :: ofElements xs

/-- The members of a JSON object. -/
def ofMembers : List (String × Json) → List (Data × Data)
  | [] => []
  | (name, v) :: ms => (.text name, ofJson v) :: ofMembers ms

end

end Data

end NodeSidecar
