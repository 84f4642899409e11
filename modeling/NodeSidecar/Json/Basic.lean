/-
**JSON values.**

Numbers are integers or numbers of double precision; the members of an object are kept in the order
of their names, one for each name.

Main definitions:

* `Json` — the values;
* `Json.object` — an object from members in any order, the last of each name counting;
* `Json.ofStrings`, `Json.ofNat`, `Json.ofOption` — values of common types.
-/

import NodeSidecar.Number.Double

set_option autoImplicit false

namespace NodeSidecar

/-- A JSON value. -/
inductive Json where
  | null
  | bool (b : Bool)
  | int (n : Int)
  | real (x : Double)
  | str (s : String)
  | arr (elements : List Json)
  | obj (members : List (String × Json))
  deriving Inhabited, Repr

namespace Json

/-- Members in order of their names, with the given one in place of any of its name. -/
def insertMember (name : String) (value : Json) : List (String × Json) → List (String × Json)
  | [] => [(name, value)]
  | (n, v) :: rest =>
    if name < n then (name, value) :: (n, v) :: rest
    else if name = n then (name, value) :: rest
    else (n, v) :: insertMember name value rest

/-- The object with the given members; of members with one name the last counts. -/
def object (members : List (String × Json)) : Json :=
  .obj (members.foldl (fun sorted m => insertMember m.1 m.2 sorted) [])

/-- A natural number. -/
def ofNat (n : Nat) : Json := .int n

/-- An array of strings. -/
def ofStrings (ss : List String) : Json := .arr (ss.map .str)

/-- A value, or null for none. -/
def ofOption {α : Type} (f : α → Json) : Option α → Json
  | some a => f a
  | none => .null

/-- The member of a name. -/
def get? (name : String) : Json → Option Json
  | .obj members => members.lookup name
  | _ => none

/-- The text of a string value. -/
def str? : Json → Option String
  | .str s => some s
  | _ => none

/-- The number of an integer value. -/
def int? : Json → Option Int
  | .int n => some n
  | _ => none

/-- The number of an integer value that is not negative. -/
def nat? : Json → Option Nat
  | .int (.ofNat n) => some n
  | _ => none

/-- The truth value. -/
def bool? : Json → Option Bool
  | .bool b => some b
  | _ => none

/-- The elements of an array. -/
def elements? : Json → Option (List Json)
  | .arr xs => some xs
  | _ => none

end Json

end NodeSidecar
