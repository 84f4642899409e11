/-
**Scripts of the shell.**

A script is a sequence of commands with connectives.  Words may be quoted, and name the zeroth
argument of the script.

Main definitions:

* `Shell.Token`, `Shell.tokens?` — words and connectives, and those of a script;
* `Shell.run` — what a script leaves.
-/

import NodeSidecar.Host.Command
import NodeSidecar.Text.Blank

set_option autoImplicit false

namespace NodeSidecar.Shell

open Host

/-- Words and connectives. -/
inductive Token where
  | word (s : String)
  | next
  | andThen
  | orElse
  | pipe
  deriving DecidableEq, Repr

/-- How the next character of a script is read. -/
inductive Quoting where
  | plain
  | single
  | double
  deriving DecidableEq, Repr

/-- The word that ends here, if one was begun; its characters are given backwards. -/
def close : Option (List Char) → List Token
  | none => []
  | some cs => [.word (String.ofList cs.reverse)]

/-- The words before the last one of an unquoted value behind the begun word, and the last one. -/
def spread (begun : Option (List Char)) (value : String) : List Token × Option (List Char) :=
  value.toList.foldl (fun (tokens, w) c =>
    if Text.isBlank c then (tokens ++ close w, none) else (tokens, some (c :: w.getD [])))
    ([], begun)

/-- The value of a parameter. -/
def parameter (zeroth : String) (c : Char) : String := if c = '0' then zeroth else ""

/-- Whether a character names a parameter. -/
def isParameter (c : Char) : Bool := Text.isDigit c || c == '@' || c == '*'

/-- Tokens in front of those read afterwards. -/
def prepend (before : List Token) (after : Option (List Token)) : Option (List Token) :=
  after.map (before ++ ·)

/-- The tokens of a script behind a begun word. -/
def tokensFrom (zeroth : String) :
    Quoting → Option (List Char) → List Char → Option (List Token)
  | .plain, w, [] => some (close w)
  | _, _, [] => none
  | .single, w, c :: cs =>
    if c = '\'' then tokensFrom zeroth .plain w cs
    else tokensFrom zeroth .single (some (c :: w.getD [])) cs
  | .double, w, '\\' :: c :: cs =>
    let kept := if c = '$' ∨ c = '"' ∨ c = '\\' then [c] else [c, '\\']
    tokensFrom zeroth .double (some (kept ++ w.getD [])) cs
  | .double, w, '$' :: c :: cs =>
    let shown := if isParameter c then parameter zeroth c else "$" ++ c.toString
    tokensFrom zeroth .double (some (shown.toList.reverse ++ w.getD [])) cs
  | .double, w, c :: cs =>
    if c = '"' then tokensFrom zeroth .plain w cs
    else tokensFrom zeroth .double (some (c :: w.getD [])) cs
  | .plain, w, '\\' :: c :: cs => tokensFrom zeroth .plain (some (c :: w.getD [])) cs
  | .plain, w, '$' :: c :: cs =>
    let (before, w) :=
      if isParameter c then spread w (parameter zeroth c)
      else ([], some (c :: '$' :: w.getD []))
    prepend before (tokensFrom zeroth .plain w cs)
  | .plain, w, '&' :: '&' :: cs =>
    prepend (close w ++ [.andThen]) (tokensFrom zeroth .plain none cs)
  | .plain, w, '|' :: '|' :: cs =>
    prepend (close w ++ [.orElse]) (tokensFrom zeroth .plain none cs)
  | .plain, w, c :: cs =>
    if c = '\'' then tokensFrom zeroth .single (some (w.getD [])) cs
    else if c = '"' then tokensFrom zeroth .double (some (w.getD [])) cs
    else if c = '|' then prepend (close w ++ [.pipe]) (tokensFrom zeroth .plain none cs)
    else if c = ';' ∨ c = '\n' then prepend (close w ++ [.next]) (tokensFrom zeroth .plain none cs)
    else if c = ' ' ∨ c = '\t' then prepend (close w) (tokensFrom zeroth .plain none cs)
    else tokensFrom zeroth .plain (some (c :: w.getD [])) cs

/-- The words and connectives of a script, unless a quotation is left open. -/
def tokens? (zeroth script : String) : Option (List Token) :=
  tokensFrom zeroth .plain none script.toList

/-- The words of a command without those that redirect an output, and whether its output goes
elsewhere.  The sign for it may stand in front of its target or be joined to it. -/
def redirected : List String → List String × Bool
  | [] => ([], false)
  | ">" :: _ :: words | "1>" :: _ :: words => ((redirected words).1, true)
  | "2>" :: _ :: words => redirected words
  | w :: words =>
    let (kept, away) := redirected words
    match w.toList with
    | '>' :: _ | '1' :: '>' :: _ => (kept, true)
    | '2' :: '>' :: _ => (kept, away)
    | _ => (w :: kept, away)

/-- What a command leaves, and whether the script ends with it. -/
def runWords (words : List String) (input : List UInt8) : Finished × Bool :=
  let (words, away) := redirected words
  let done : Finished × Bool :=
    match words with
    | [] => ({}, false)
    | [":"] => ({}, false)
    | "exit" :: code =>
      ({ status := ((code.head?.map String.toList).bind Text.ofDigits?).getD 0 }, true)
    | "kill" :: args => ({ status := 1 }, args.contains "$$")
    | "exec" :: name :: args => ((command? true name args input).getD { status := 127 }, true)
    | name :: args => ((command? true name args input).getD { status := 127 }, false)
  if away then ({ done.1 with output := [] }, done.2) else done

/-- The state between two commands of a script. -/
structure Progress where
  output : List UInt8 := []
  status : Nat := 0
  /-- Whether the next command is passed over. -/
  skipping : Bool := false
  /-- The words of the command that is being read, backwards. -/
  words : List String := []
  /-- What the next command reads. -/
  input : List UInt8 := []
  ended : Bool := false

/-- Runs the command that has been read; `piped` keeps its output for the next one. -/
def Progress.finish (p : Progress) (piped : Bool) : Progress :=
  if p.ended ∨ p.skipping ∨ p.words.isEmpty then { p with words := [] }
  else
    let (done, ended) := runWords p.words.reverse p.input
    if piped then { p with words := [], input := done.output }
    else
      { p with output := p.output ++ done.output, status := done.status, words := [], input := []
               ended := ended }

/-- The state after a token. -/
def Progress.step (p : Progress) : Token → Progress
  | .word s => { p with words := s :: p.words }
  | .next => { p.finish false with skipping := false }
  | .andThen =>
    let q := p.finish false
    { q with skipping := q.status != 0 }
  | .orElse =>
    let q := p.finish false
    { q with skipping := q.status == 0 }
  | .pipe => p.finish true

/-- What a script leaves. -/
def run (script zeroth : String) : Finished :=
  match tokens? zeroth script with
  | none => { status := 2 }
  | some tokens =>
    let p := (tokens.foldl Progress.step {}).finish false
    { output := p.output, status := p.status }

end NodeSidecar.Shell
