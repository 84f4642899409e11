/-
**Request targets.**

The target of a request has a path and may have a query behind a question mark; what follows a
number sign is not part of it.  A path is cut into segments at slashes.  Bytes may be given by two
hexadecimal digits behind a percent sign; a percent sign without them stands for itself.

Main definitions:

* `Target`, `Target.ofText` — a path with its segments, and the query;
* `percentDecoded` — the bytes of a text;
* `queryPairs` — the names and values of a query;
* `readPort` — a port number.
-/

import NodeSidecar.Text.Digits
import NodeSidecar.Text.Utf8

set_option autoImplicit false

namespace NodeSidecar.Api

/-- The bytes of a text with percent signs. -/
def percentDecoded : List UInt8 → List UInt8
  | 0x25 :: a :: b :: rest =>
    match Text.ofHexDigits? [Char.ofNat a.toNat, Char.ofNat b.toNat] with
    | some n => UInt8.ofNat n :: percentDecoded rest
    | none => 0x25 :: percentDecoded (a :: b :: rest)
  | b :: rest => b :: percentDecoded rest
  | [] => []

/-- The pieces of some characters between separators; `piece` is being read, backwards. -/
def splitAt (separator : Char) : List Char → List Char → List (List Char)
  | piece, [] => [piece.reverse]
  | piece, c :: cs =>
    if c = separator then piece.reverse :: splitAt separator [] cs
    else splitAt separator (c :: piece) cs

/-- A target: the segments of its path, as written, and its query. -/
structure Target where
  segments : List String
  query : String
  deriving DecidableEq, Repr

/-- The target that a text gives. -/
def Target.ofText (s : String) : Target :=
  let cs := s.toList.takeWhile (· != '#')
  let path := cs.takeWhile (· != '?')
  let query := (cs.dropWhile (· != '?')).drop 1
  { segments := ((splitAt '/' [] path).drop 1).map String.ofList
    query := String.ofList query }

/-- The text of a name or value in a query, in which a plus sign stands for a space. -/
def queryText (cs : List Char) : String :=
  let spaced := cs.map fun c => if c = '+' then ' ' else c
  Text.ofUtf8WithReplacement (percentDecoded (Text.utf8Bytes (String.ofList spaced)))

/-- The names and values of a query, in order. -/
def queryPairs (query : String) : List (String × String) :=
  ((splitAt '&' [] query.toList).filter fun p => !p.isEmpty).map fun p =>
    (queryText (p.takeWhile (· != '=')), queryText ((p.dropWhile (· != '=')).drop 1))

/-- Why a text is no port number. -/
inductive PortFault where
  | empty
  | invalidDigit
  | tooLarge
  deriving DecidableEq, Repr

/-- The fault in words. -/
def PortFault.message : PortFault → String
  | .empty => "cannot parse integer from empty string"
  | .invalidDigit => "invalid digit found in string"
  | .tooLarge => "number too large to fit in target type"

/-- The number whose digits follow those of `acc`; the first fault counts. -/
def portFrom (acc : Nat) : List Char → Except PortFault UInt16
  | [] => .ok (UInt16.ofNat acc)
  | c :: cs =>
    match Text.digitValue? c with
    | none => .error .invalidDigit
    | some d => if acc * 10 + d ≤ 65535 then portFrom (acc * 10 + d) cs else .error .tooLarge

/-- The port number of a text, which may start with a plus sign. -/
def readPort (s : String) : Except PortFault UInt16 :=
  match s.toList with
  | [] => .error .empty
  | ['+'] => .error .invalidDigit
  | '+' :: ds => portFrom 0 ds
  | ds => portFrom 0 ds

end NodeSidecar.Api
