/-
**Quoted scalars.**

Between single quotes only the quote itself is escaped, by doubling.  Between double quotes a
backslash escapes characters by a letter or by their number, and line breaks.

Main definitions:

* `Quoted.escape?` — an escape;
* `Quoted.read?` — the scalar whose opening quote comes next.
-/

import NodeSidecar.Yaml.Fold

set_option autoImplicit false

namespace NodeSidecar.Yaml.Quoted

/-- The character that a letter stands for behind a backslash. -/
def letterEscape? (c : Char) : Option Char :=
  match c with
  | '0' => some (Char.ofNat 0)
  | 'a' => some (Char.ofNat 7)
  | 'b' => some (Char.ofNat 8)
  | 't' => some '\t'
  | '\t' => some '\t'
  | 'n' => some '\n'
  | 'v' => some (Char.ofNat 11)
  | 'f' => some (Char.ofNat 12)
  | 'r' => some '\r'
  | 'e' => some (Char.ofNat 27)
  | ' ' => some ' '
  | '"' => some '"'
  | '/' => some '/'
  | '\\' => some '\\'
  | 'N' => some (Char.ofNat 0x85)
  | '_' => some (Char.ofNat 0xA0)
  | 'L' => some (Char.ofNat 0x2028)
  | 'P' => some (Char.ofNat 0x2029)
  | _ => none

/-- The number of digits behind the letter of a numeric escape. -/
def escapeLength? (c : Char) : Option Nat :=
  match c with
  | 'x' => some 2
  | 'u' => some 4
  | 'U' => some 8
  | _ => none

/-- The character of a number, unless there is none. -/
def charOf? (n : Nat) : Option Char :=
  if (0xD800 ≤ n ∧ n ≤ 0xDFFF) ∨ 0x10FFFF < n then none else some (Char.ofNat n)

/-- The character of the escape that comes behind a backslash, and the length of the escape. -/
def escape? : List Char → Option (Char × Nat)
  | [] => none
  | c :: cs =>
    match letterEscape? c, escapeLength? c with
    | some e, _ => some (e, 1)
    | none, some n =>
      let digits := cs.take n
      if digits.length = n then
        ((Text.ofHexDigits? digits).bind charOf?).map fun e => (e, n + 1)
      else none
    | none, none => none

/-- The characters that come next up to a blank, a line break, an escaped line break or the closing
quote, whether an escaped line break ended them, and the text after them. -/
def wordFrom (quote : Char) : Nat → List Char → Source → Option (List Char × Bool × Source)
  | 0, acc, s => some (acc, false, s)
  | fuel + 1, acc, s =>
    match s.rest with
    | [] => some (acc, false, s)
    | c :: cs =>
      if isBlank c || isBreak c then some (acc, false, s)
      else if quote == '\'' && c == '\'' && cs.head? == some '\'' then
        wordFrom quote fuel (acc ++ ['\'']) (s.skip 2)
      else if c == quote then some (acc, false, s)
      else if quote == '"' && c == '\\' then
        if cs.head?.any isBreak then some (acc, true, (s.skip 1).readBreak.2)
        else do
          let (e, length) ← escape? cs
          wordFrom quote fuel (acc ++ [e]) (s.skip (1 + length))
      else wordFrom quote fuel (acc ++ [c]) (s.skip 1)

/-- The scalar that goes on behind `acc`, up to its closing quote. -/
def readFrom (quote : Char) : Nat → List Char → Source → Option (List Char × Source)
  | 0, _, _ => none
  | fuel + 1, acc, s => do
    if s.atMark || s.atEnd then none
    let (word, escaped, s) ← wordFrom quote (s.rest.length + 1) [] s
    if s.starts quote then return (acc ++ word, s.skip 1)
    let (gap, s) ← Gap.read? 0 (if escaped then .breaks none [] else .blanks []) s
    readFrom quote fuel (acc ++ word ++ gap.text) s

/-- The scalar whose opening quote comes next. -/
def read? (quote : Char) (s : Source) : Option (String × Source) := do
  let (cs, s) ← readFrom quote (s.rest.length + 1) [] (s.skip 1)
  return (String.ofList cs, s)

end NodeSidecar.Yaml.Quoted
