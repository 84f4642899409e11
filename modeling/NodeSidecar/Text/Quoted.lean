/-
**Quoted texts in messages.**

A message shows a text between quotation marks.  The mark itself, the backslash and the common
control characters are escaped with a backslash and a letter, other hidden characters by their
number in braces.

Main definitions:

* `quotedChar` — a character inside the marks;
* `quoted` — a text;
* `quotedList` — a list of texts in brackets.
-/

import NodeSidecar.Text.Hidden

set_option autoImplicit false

namespace NodeSidecar.Text

/-- A character as it is shown between quotation marks. -/
def quotedChar (c : Char) : String :=
  match c with
  | '"' => "\\\""
  | '\\' => "\\\\"
  | '\n' => "\\n"
  | '\r' => "\\r"
  | '\t' => "\\t"
  | c =>
    if c.toNat = 0 then "\\0"
    else if isHidden c then "\\u\x7b" ++ hex c.toNat ++ "\x7d"
    else c.toString

/-- A text between quotation marks. -/
def quoted (s : String) : String :=
  "\"" ++ s.toList.foldl (fun acc c => acc ++ quotedChar c) "" ++ "\""

/-- Texts between quotation marks, separated by commas and in brackets. -/
def quotedList (ss : List String) : String := "[" ++ ", ".intercalate (ss.map quoted) ++ "]"

end NodeSidecar.Text
