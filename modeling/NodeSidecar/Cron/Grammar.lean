/-
**The written form of a field.**

Readers for terms and lists of terms.  Each takes the characters still to be read and gives what
it read with the characters left, or nothing.  Blanks are allowed around ordinals, around names and
around a whole list; alternatives are tried in the order given, and the first that reads decides.

Main definitions:

* `Cron.span?` — `*`, a range, an ordinal or a range of names (and `?` where it is allowed);
* `Cron.term?` — a span with or without a step, or a name;
* `Cron.terms?` — terms separated by commas; a comma that no term follows is left unread.
-/

import NodeSidecar.Cron.Field
import NodeSidecar.Text.Digits

set_option autoImplicit false

namespace NodeSidecar.Cron

/-- Drops spaces and tabulators. -/
def skipSpaces (cs : List Char) : List Char := cs.dropWhile fun c => c == ' ' || c == '\t'

/-- An ordinal below 2 ^ 32, with blanks around it. -/
def ordinal? (cs : List Char) : Option (Nat × List Char) := do
  let cs := skipSpaces cs
  let n ← Text.ofDigits? (cs.takeWhile Text.isDigit)
  if n < UInt32.size then some (n, skipSpaces (cs.dropWhile Text.isDigit)) else none

/-- A name of ASCII letters, with blanks around it. -/
def name? (cs : List Char) : Option (List Char × List Char) :=
  let cs := skipSpaces cs
  match cs.takeWhile Text.isLetter with
  | [] => none
  | letters => some (letters, skipSpaces (cs.dropWhile Text.isLetter))

/-- The given character. -/
def mark? (c : Char) : List Char → Option (List Char)
  | d :: cs => if d = c then some cs else none
  | [] => none

/-- Two ordinals joined by a hyphen. -/
def range? (cs : List Char) : Option (Span × List Char) := do
  let (a, cs) ← ordinal? cs
  let (b, cs) ← ordinal? (← mark? '-' cs)
  return (.range a b, cs)

/-- Two names joined by a hyphen. -/
def namedRange? (cs : List Char) : Option (Span × List Char) := do
  let (a, cs) ← name? cs
  let (b, cs) ← name? (← mark? '-' cs)
  return (.named a b, cs)

/-- A span; `?` counts as one when `allowsAny` says so. -/
def span? (allowsAny : Bool) (cs : List Char) : Option (Span × List Char) :=
  (if allowsAny then (mark? '?' cs).map fun cs => (Span.all, cs) else none)
    <|> (mark? '*' cs).map (fun cs => (Span.all, cs))
    <|> range? cs
    <|> (ordinal? cs).map (fun (n, cs) => (Span.point n, cs))
    <|> namedRange? cs

/-- A span, a stroke and a step. -/
def everyTerm? (allowsAny : Bool) (cs : List Char) : Option (Term × List Char) := do
  let (s, cs) ← span? allowsAny cs
  let (step, cs) ← ordinal? (← mark? '/' cs)
  return (.every s step, cs)

/-- One term. -/
def term? (allowsAny : Bool) (cs : List Char) : Option (Term × List Char) :=
  everyTerm? allowsAny cs
    <|> (span? allowsAny cs).map (fun (s, cs) => (Term.span s, cs))
    <|> (name? cs).map (fun (n, cs) => (Term.name n, cs))

/-- The terms that follow commas; `fuel` bounds their number. -/
def moreTerms (allowsAny : Bool) : Nat → List Char → List Term × List Char
  | 0, cs => ([], cs)
  | fuel + 1, cs =>
    match (mark? ',' cs).bind (term? allowsAny) with
    | some (t, rest) =>
      let (ts, rest) := moreTerms allowsAny fuel rest
      (t :: ts, rest)
    | none => ([], cs)

/-- A list of terms with blanks around it.  Each term after the first takes up a comma, so there
are no more of them than characters. -/
def terms? (allowsAny : Bool) (cs : List Char) : Option (List Term × List Char) := do
  let (t, cs) ← term? allowsAny (skipSpaces cs)
  let (ts, cs) := moreTerms allowsAny cs.length cs
  return (t :: ts, skipSpaces cs)

end NodeSidecar.Cron
