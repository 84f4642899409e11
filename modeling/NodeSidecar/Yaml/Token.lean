/-
**Tokens of YAML.**

The tokens show the structure of a text: where blocks begin and end, which is told by indentation,
and which scalars are keys, which is told by the colon behind them.  A scalar, an alias, a bracket
or an anchor or tag may turn out to be a key as long as it is on one line and not too long.

Main definitions:

* `Token` — the tokens;
* `Lexer`, `Lexer.step` — the state of reading, and reading one token;
* `Token.ofText?` — the tokens of a text.
-/

import NodeSidecar.Yaml.Block
import NodeSidecar.Yaml.Plain
import NodeSidecar.Yaml.Quoted
import NodeSidecar.Yaml.Tag

set_option autoImplicit false

namespace NodeSidecar.Yaml

/-- The ways to write a scalar that make a difference to its meaning. -/
inductive Style where
  | plain
  | quoted
  | literal
  deriving DecidableEq, Repr

/-- The tokens. -/
inductive Token where
  | directive (d : Directive)
  | documentStart
  | documentEnd
  | blockListStart
  | blockMapStart
  | blockEnd
  | flowListStart
  | flowListEnd
  | flowMapStart
  | flowMapEnd
  | entry
  | comma
  | key
  | value
  | alias_ (name : String)
  | anchor (name : String)
  | tag (handle suffix : String)
  | scalar (style : Style) (text : String)
  deriving DecidableEq, Repr

/-- A token that may turn out to be a key: how many tokens are before it, and where it stands. -/
structure PossibleKey where
  number : Nat
  index : Nat
  line : Nat
  column : Nat
  /-- Whether nothing but a key may stand there. -/
  required : Bool

/-- The state of reading tokens. -/
structure Lexer where
  source : Source
  /-- The tokens read so far, the last one first, and their number. -/
  tokens : List Token := []
  count : Nat := 0
  /-- The indentation of the innermost block and of those around it. -/
  indent : Int := -1
  outerIndents : List Int := []
  /-- What may be a key inside the innermost brackets and inside those around them. -/
  key? : Option PossibleKey := none
  outerKeys : List (Option PossibleKey) := []
  /-- Whether a key may start here. -/
  keyAllowed : Bool := true

namespace Lexer

/-- Whether brackets are open. -/
def inFlow (l : Lexer) : Bool := !l.outerKeys.isEmpty

/-- Adds a token. -/
def emit (l : Lexer) (t : Token) : Lexer := { l with tokens := t :: l.tokens, count := l.count + 1 }

/-- Adds a token behind the first `number` tokens. -/
def insert (l : Lexer) (number : Nat) (t : Token) : Lexer :=
  let later := l.count - number
  { l with tokens := l.tokens.take later ++ t :: l.tokens.drop later, count := l.count + 1 }

/-- Reads on by some characters of the line. -/
def skip (l : Lexer) (n : Nat) : Lexer := { l with source := l.source.skip n }

/-- Closes the blocks that are indented more than a column, given the indentations. -/
def closeFrom (column : Int) : Int → List Int → Nat × Int × List Int
  | indent, [] => (0, indent, [])
  | indent, outer :: rest =>
    if column < indent then
      let (n, indents) := closeFrom column outer rest
      (n + 1, indents)
    else (0, indent, outer :: rest)

/-- Closes the blocks that are indented more than a column, unless brackets are open. -/
def close (l : Lexer) (column : Int) : Lexer :=
  if l.inFlow then l
  else
    let (n, indent, outerIndents) := closeFrom column l.indent l.outerIndents
    { l with tokens := List.replicate n Token.blockEnd ++ l.tokens, count := l.count + n
             indent, outerIndents }

/-- Opens a block at a column behind the first `number` tokens, unless one is open there or
brackets are open. -/
def openBlock (l : Lexer) (column number : Nat) (t : Token) : Lexer :=
  if l.inFlow || decide ((column : Int) ≤ l.indent) then l
  else { l.insert number t with indent := column, outerIndents := l.indent :: l.outerIndents }

/-- What may still be a key; none if it has to be one and cannot. -/
def fresh? (s : Source) : Option PossibleKey → Option (Option PossibleKey)
  | none => some none
  | some k =>
    if k.line < s.line ∨ k.index + 1024 < s.index then
      if k.required then none else some none
    else some (some k)

/-- Forgets what can no longer be a key. -/
def dropStale (l : Lexer) : Option Lexer := do
  let outerKeys ← l.outerKeys.mapM (fresh? l.source)
  return { l with key? := ← fresh? l.source l.key?, outerKeys }

/-- Forgets what may be a key inside the innermost brackets. -/
def dropKey (l : Lexer) : Option Lexer :=
  if l.key?.any (·.required) then none else some { l with key? := none }

/-- Notes that the next token may be a key. -/
def noteKey (l : Lexer) : Option Lexer :=
  if l.keyAllowed then do
    let s := l.source
    let required := !l.inFlow && decide (l.indent = s.column)
    let l ← l.dropKey
    return { l with key? := some ⟨l.count, s.index, s.line, s.column, required⟩ }
  else some l

/-- Notes whether a key may come next. -/
def allow (l : Lexer) (keyAllowed : Bool) : Lexer := { l with keyAllowed }

/-- The text after blanks, comments and line breaks.  Tabs are no indentation. -/
def spacesFrom : Nat → Lexer → Lexer
  | 0, l => l
  | fuel + 1, l =>
    let tabs := l.inFlow || !l.keyAllowed
    let s := (l.source.span fun c => c == ' ' || (tabs && c == '\t')).2.skipComment
    if s.atBreak then
      spacesFrom fuel { l with source := s.readBreak.2, keyAllowed := l.keyAllowed || !l.inFlow }
    else { l with source := s }

/-- The text after blanks, comments and line breaks, and after a mark of its encoding. -/
def skipSpaces (l : Lexer) : Lexer :=
  let s := l.source
  let s := if s.index = 0 ∧ s.starts (Char.ofNat 0xFEFF) then s.skip 1 else s
  spacesFrom (s.rest.length + 1) { l with source := s }

/-- Reads a directive. -/
def directive (l : Lexer) : Option Lexer := do
  let l ← (l.close (-1)).dropKey
  let (d, source) ← Directive.read? l.source
  return { l.emit (.directive d) with source, keyAllowed := false }

/-- Reads the mark of a document. -/
def documentMark (l : Lexer) (t : Token) : Option Lexer := do
  return ((← (l.close (-1)).dropKey).emit t).skip 3 |>.allow false

/-- Reads an opening bracket. -/
def openFlow (l : Lexer) (t : Token) : Option Lexer := do
  let l ← l.noteKey
  return ({ l with key? := none, outerKeys := l.key? :: l.outerKeys }.emit t).skip 1 |>.allow true

/-- Reads a closing bracket. -/
def closeFlow (l : Lexer) (t : Token) : Option Lexer := do
  let l ← l.dropKey
  let l := match l.outerKeys with
    | [] => l
    | key? :: outerKeys => { l with key?, outerKeys }
  return (l.emit t).skip 1 |>.allow false

/-- Reads a comma between brackets. -/
def comma (l : Lexer) : Option Lexer := do
  return ((← l.dropKey).emit .comma).skip 1 |>.allow true

/-- Reads the dash of an entry. -/
def entry (l : Lexer) : Option Lexer := do
  if !l.inFlow && !l.keyAllowed then none
  let l ← (l.openBlock l.source.column l.count .blockListStart).dropKey
  return (l.emit .entry).skip 1 |>.allow true

/-- Reads the question mark of a key. -/
def key (l : Lexer) : Option Lexer := do
  if !l.inFlow && !l.keyAllowed then none
  let l ← (l.openBlock l.source.column l.count .blockMapStart).dropKey
  return (l.emit .key).skip 1 |>.allow (!l.inFlow)

/-- Reads the colon of a value; what stands before it may turn out to be its key. -/
def value (l : Lexer) : Option Lexer :=
  match l.key? with
  | some k =>
    let l := (l.insert k.number .key).openBlock k.column k.number .blockMapStart
    some (({ l with key? := none }.emit .value).skip 1 |>.allow false)
  | none =>
    if !l.inFlow && !l.keyAllowed then none
    else
      let l := l.openBlock l.source.column l.count .blockMapStart
      some ((l.emit .value).skip 1 |>.allow (!l.inFlow))

/-- Whether a character may follow the name of an anchor. -/
def endsName (s : Source) : Bool :=
  s.spaceAt 0 || s.rest.head?.any fun c => "?:,]\x7d%@`".toList.contains c

/-- Reads an anchor or an alias. -/
def anchor (l : Lexer) (make : String → Token) : Option Lexer := do
  let l ← l.noteKey
  let (name, source) := (l.source.skip 1).span isNameChar
  if name.isEmpty || !endsName source then none
  return { l.emit (make (String.ofList name)) with source, keyAllowed := false }

/-- Reads a tag. -/
def tag (l : Lexer) : Option Lexer := do
  let l ← l.noteKey
  let (handle, suffix, source) ← Tag.read? l.inFlow l.source
  return { l.emit (.tag handle suffix) with source, keyAllowed := false }

/-- Reads a block scalar. -/
def block (l : Lexer) : Option Lexer := do
  let style : Style := if l.source.starts '|' then .literal else .quoted
  let l ← l.dropKey
  let (text, source) ← Block.read? l.indent l.source
  return { l.emit (.scalar style text) with source, keyAllowed := true }

/-- Reads a quoted scalar. -/
def quoted (l : Lexer) (quote : Char) : Option Lexer := do
  let l ← l.noteKey
  let (text, source) ← Quoted.read? quote l.source
  return { l.emit (.scalar .quoted text) with source, keyAllowed := false }

/-- Reads a plain scalar. -/
def plain (l : Lexer) : Option Lexer := do
  let l ← l.noteKey
  let (text, broken, source) ← Plain.read? l.inFlow (l.indent + 1) l.source
  return { l.emit (.scalar .plain text) with source, keyAllowed := broken }

/-- Whether a character starts no plain scalar. -/
def isIndicator (c : Char) : Bool := "-?:,[]\x7b\x7d#&*!|>'\"%@`".toList.contains c

/-- Reads the token that starts with `c`. -/
def token (l : Lexer) (c : Char) : Option Lexer :=
  let s := l.source
  if s.column = 0 ∧ c = '%' then l.directive
  else if s.atTriple '-' then l.documentMark .documentStart
  else if s.atTriple '.' then l.documentMark .documentEnd
  else if c = '[' then l.openFlow .flowListStart
  else if c = '\x7b' then l.openFlow .flowMapStart
  else if c = ']' then l.closeFlow .flowListEnd
  else if c = '\x7d' then l.closeFlow .flowMapEnd
  else if c = ',' then l.comma
  else if c = '-' ∧ s.spaceAt 1 then l.entry
  else if c = '?' ∧ (l.inFlow || s.spaceAt 1) then l.key
  else if c = ':' ∧ (l.inFlow || s.spaceAt 1) then l.value
  else if c = '*' then l.anchor .alias_
  else if c = '&' then l.anchor .anchor
  else if c = '!' then l.tag
  else if (c = '|' ∨ c = '>') ∧ l.inFlow = false then l.block
  else if c = '\'' ∨ c = '"' then l.quoted c
  else if c = '-' ∨ (l.inFlow = false ∧ (c = '?' ∨ c = ':')) then l.plain
  else if isBlank c || isIndicator c then none
  else l.plain

/-- Closes all blocks at the end of the text. -/
def finish (l : Lexer) : Option (List Token) :=
  (l.close (-1)).dropKey.map fun l => l.tokens.reverse

/-- Reads one token; the result is a state, or at the end of the text all tokens. -/
def step (l : Lexer) : Option (Lexer ⊕ List Token) := do
  let l ← l.skipSpaces.dropStale
  let l := l.close l.source.column
  match l.source.rest with
  | [] => return .inr (← l.finish)
  | c :: _ => return .inl (← l.token c)

/-- Reads tokens up to the end of the text. -/
def run : Nat → Lexer → Option (List Token)
  | 0, _ => none
  | fuel + 1, l => do
    match ← l.step with
    | .inr tokens => return tokens
    | .inl l => run fuel l

end Lexer

/-- The tokens of a text, none if it has characters that may not stand in one or a token is
malformed.  Every token but the last takes a character at least. -/
def Token.ofText? (s : String) : Option (List Token) :=
  let cs := s.toList
  if cs.all isAllowed then Lexer.run (cs.length + 1) { source := { rest := cs } } else none

end NodeSidecar.Yaml
