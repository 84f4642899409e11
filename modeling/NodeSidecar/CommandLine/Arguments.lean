/-
**The arguments of the command line.**

The first argument is a command or asks for help or for the version.  Commands take the path of a
configuration, one of them an identifier as an option too.  Arguments are read from left to right,
and the first that asks for help or that has no meaning decides.

Main definitions:

* `Invocation` — what is asked for;
* `Invocation.ofArguments` — what some arguments ask for.
-/

import NodeSidecar.CommandLine.Help

set_option autoImplicit false

namespace NodeSidecar.CommandLine

/-- What is asked for. -/
inductive Invocation where
  | run (config : String)
  | validate (config : String)
  | manifest (config : String) (identifier? : Option String)
  | help (topic : Topic)
  | version
  /-- Nothing that has a meaning. -/
  | misuse
  deriving DecidableEq, Repr

namespace Invocation

/-- The arguments of a command read so far. -/
structure Given where
  config? : Option String := none
  identifier? : Option String := none
  /-- Whether options have ended. -/
  plainOnly : Bool := false

/-- The kinds of an argument. -/
inductive Kind where
  | plain
  /-- The end of options. -/
  | ending
  | help
  /-- An identifier, or the option whose identifier comes next. -/
  | identifier (value? : Option String)
  | unknown
  deriving DecidableEq, Repr

/-- Whether an argument has the form of an option. -/
def isOption (s : String) : Bool :=
  match s.toList with
  | '-' :: _ :: _ => true
  | _ => false

/-- The name of the option for an identifier. -/
def identifierOption : List Char := "--id".toList

/-- The kind of an argument where options may come. -/
def kind (s : String) : Kind :=
  let cs := s.toList
  if s = "--" then .ending
  else if s = "--help" then .help
  else if cs.take 2 = ['-', '-'] then
    let name := cs.takeWhile (· != '=')
    if name = identifierOption then
      .identifier ((cs.drop name.length).tail?.map String.ofList)
    else .unknown
  else
    match cs with
    | '-' :: 'h' :: _ => .help
    | '-' :: _ :: _ => .unknown
    | _ => .plain

/-- What is asked for once all arguments of a command have been read. -/
def complete (topic : Topic) (g : Given) : Invocation :=
  match g.config? with
  | none => .misuse
  | some config =>
    match topic with
    | .run => .run config
    | .validate => .validate config
    | .manifest => .manifest config g.identifier?
    | .program | .help => .misuse

/-- What the arguments of a command ask for. -/
def ofCommand (topic : Topic) : Given → List String → Invocation
  | g, [] => complete topic g
  | g, s :: rest =>
    let plain : Invocation :=
      if g.config?.isSome || s == "" then .misuse
      else ofCommand topic { g with config? := some s } rest
    if g.plainOnly then plain
    else
      match kind s with
      | .plain => plain
      | .ending => ofCommand topic { g with plainOnly := true } rest
      | .help => .help topic
      | .unknown => .misuse
      | .identifier value? =>
        if topic ≠ .manifest ∨ g.identifier?.isSome then .misuse
        else
          match value?, rest with
          | some value, rest => ofCommand topic { g with identifier? := some value } rest
          | none, [] => .misuse
          | none, value :: rest =>
            if isOption value then .misuse
            else ofCommand topic { g with identifier? := some value } rest

/-- What the arguments behind the command for help ask for. -/
def ofHelp : List String → Invocation
  | [] => .help .program
  | [name] =>
    match Topic.named.lookup name with
    | some topic => .help topic
    | none => .misuse
  | _ => .misuse

/-- What some arguments ask for. -/
def ofArguments : List String → Invocation
  | [] => .misuse
  | first :: rest =>
    match Topic.named.lookup first with
    | some .help => ofHelp rest
    | some topic => ofCommand topic {} rest
    | none =>
      if first = "--help" then .help .program
      else if first = "--version" then .version
      else
        match first.toList with
        | '-' :: 'h' :: _ => .help .program
        | '-' :: 'V' :: _ => .version
        | _ => .misuse

end Invocation

end NodeSidecar.CommandLine
