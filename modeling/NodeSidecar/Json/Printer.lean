/-
**Compact JSON text.**

Values are written without blanks.  In strings the quotation mark, the backslash and the control
characters below the space are escaped, those with a short escape by it.
-/

import NodeSidecar.Json.Basic
import NodeSidecar.Number.Shortest
import NodeSidecar.Text.Digits

set_option autoImplicit false

namespace NodeSidecar.Json

/-- A character inside a string. -/
def escapeChar (c : Char) : String :=
  match c with
  | '"' => "\\\""
  | '\\' => "\\\\"
  | '\n' => "\\n"
  | '\r' => "\\r"
  | '\t' => "\\t"
  | c =>
    if c.toNat = 8 then "\\b"
    else if c.toNat = 12 then "\\f"
    else if c.toNat < 32 then "\\u" ++ Text.paddedHex 4 c.toNat
    else c.toString

/-- A string in quotation marks. -/
def quote (s : String) : String :=
  "\"" ++ s.toList.foldl (fun acc c => acc ++ escapeChar c) "" ++ "\""

mutual

/-- The compact text of a value. -/
def compact : Json → String
  | .null => "null"
  | .bool b => if b then "true" else "false"
  | .int n => toString n
  | .real x => x.text Double.jsonLayout
  | .str s => quote s
  | .arr xs => "[" ++ ",".intercalate (compactElements xs) ++ "]"
  | .obj ms => "\x7b" ++ ",".intercalate (compactMembers ms) ++ "\x7d"

/-- The texts of the elements of an array. -/
def compactElements : List Json → List String
  | [] => []
  | x :: xs => compact x :: compactElements xs

/-- The texts of the members of an object. -/
def compactMembers : List (String × Json) → List String
  | [] => []
  | (name, v) :: ms => (quote name ++ ":" ++ compact v) :: compactMembers ms

end

end NodeSidecar.Json
