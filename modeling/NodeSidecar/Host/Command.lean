/-
**Common commands.**

The commands that every host has and whose output depends on nothing but their arguments and their
input.  Escapes are those of the system's shell: a letter, or up to three octal digits.

Main definitions:

* `Host.Finished` — what a command leaves: its output and its status;
* `Host.unescape` — the bytes of a text with escapes;
* `Host.printf` — formatted output;
* `Host.command?` — the command of a name.
-/

import NodeSidecar.Text.Digits
import NodeSidecar.Text.Utf8

set_option autoImplicit false

namespace NodeSidecar.Host

/-- What a command leaves. -/
structure Finished where
  output : List UInt8 := []
  status : Nat := 0
  deriving DecidableEq, Repr

/-- The bytes of a character. -/
def bytesOf (c : Char) : List UInt8 := Text.utf8Bytes c.toString

/-- The byte that a letter stands for behind a backslash. -/
def letterEscape? : Char → Option UInt8
  | 'a' => some 7
  | 'b' => some 8
  | 't' => some 9
  | 'n' => some 10
  | 'v' => some 11
  | 'f' => some 12
  | 'r' => some 13
  | '\\' => some 92
  | _ => none

/-- The value of an octal digit. -/
def octalValue? (c : Char) : Option Nat := (Text.digitValue? c).filter fun n => n < 8

/-- The number of up to `count` octal digits, and what follows them. -/
def octal : Nat → Nat → List Char → Nat × List Char
  | 0, acc, cs => (acc, cs)
  | _, acc, [] => (acc, [])
  | count + 1, acc, c :: cs =>
    match octalValue? c with
    | some d => octal count (acc * 8 + d) cs
    | none => (acc, c :: cs)

/-- The bytes of a character or of an escape at the start of a text, and what follows; a zero in
front of the octal digits does not count as one of them if `freeZero`. -/
def unescapeOne (freeZero : Bool) : List Char → List UInt8 × List Char
  | [] => ([], [])
  | '\\' :: c :: cs =>
    match letterEscape? c with
    | some b => ([b], cs)
    | none =>
      if (octalValue? c).isSome then
        let (n, rest) := octal (if freeZero && c == '0' then 4 else 3) 0 (c :: cs)
        ([UInt8.ofNat n], rest)
      else ([92], c :: cs)
  | c :: cs => (bytesOf c, cs)

/-- The bytes of a text with escapes; `fuel` bounds the number of its characters. -/
def unescapeFrom (freeZero : Bool) : Nat → List Char → List UInt8
  | 0, _ => []
  | _, [] => []
  | fuel + 1, c :: cs =>
    let (bytes, rest) := unescapeOne freeZero (c :: cs)
    bytes ++ unescapeFrom freeZero fuel rest

/-- The bytes of a text with escapes. -/
def unescape (freeZero : Bool) (s : String) : List UInt8 :=
  unescapeFrom freeZero s.length s.toList

/-- One pass over a format: the output and the arguments that are left. -/
def printfOnce : Nat → List Char → List String → List UInt8 × List String
  | 0, _, args => ([], args)
  | _, [], args => ([], args)
  | fuel + 1, '%' :: '%' :: cs, args =>
    let (bytes, args) := printfOnce fuel cs args
    (37 :: bytes, args)
  | fuel + 1, '%' :: c :: cs, args =>
    let arg := args.headD ""
    let shown :=
      match c with
      | 'b' => unescape true arg
      | 'c' => (arg.toList.head?.map bytesOf).getD []
      | 's' => Text.utf8Bytes arg
      | _ => Text.utf8Bytes (if arg = "" then "0" else arg)
    let (bytes, args) := printfOnce fuel cs args.tail
    (shown ++ bytes, args)
  | fuel + 1, c :: cs, args =>
    let (shown, rest) := unescapeOne false (c :: cs)
    let (bytes, args) := printfOnce fuel rest args
    (shown ++ bytes, args)

/-- Passes over a format as long as it takes arguments and some are left. -/
def printfFrom : Nat → List Char → List String → List UInt8
  | 0, _, _ => []
  | fuel + 1, format, args =>
    let (bytes, rest) := printfOnce format.length format args
    if rest.isEmpty ∨ rest.length = args.length then bytes
    else bytes ++ printfFrom fuel format rest

/-- Formatted output. -/
def printf : List String → Finished
  | [] => { status := 2 }
  | format :: args => { output := printfFrom (args.length + 1) format.toList args }

/-- How `echo` writes its arguments. -/
structure EchoStyle where
  escapes : Bool := false
  endOfLine : Bool := true
  deriving DecidableEq, Repr

namespace EchoStyle

/-- The style asked for by one letter of an option, if it is one. -/
def letter? (style : EchoStyle) : Char → Option EchoStyle
  | 'n' => some { style with endOfLine := false }
  | 'e' => some { style with escapes := true }
  | 'E' => some { style with escapes := false }
  | _ => none

/-- The style asked for by an argument, if it is an option. -/
def option? (style : EchoStyle) (arg : String) : Option EchoStyle :=
  match arg.toList with
  | '-' :: c :: cs => (c :: cs).foldlM letter? style
  | _ => none

/-- The style asked for by the options in front, and the arguments behind them. -/
def ofArguments (style : EchoStyle) : List String → EchoStyle × List String
  | [] => (style, [])
  | arg :: args =>
    match style.option? arg with
    | some style => style.ofArguments args
    | none => (style, arg :: args)

/-- The style in a shell, where escapes are always read and there is one option. -/
def ofShellArguments : List String → EchoStyle × List String
  | "-n" :: args => ({ escapes := true, endOfLine := false }, args)
  | args => ({ escapes := true }, args)

end EchoStyle

/-- The arguments with blanks between them. -/
def echo (style : EchoStyle) (args : List String) : Finished :=
  let line := " ".intercalate args
  let bytes := if style.escapes then unescape true line else Text.utf8Bytes line
  { output := bytes ++ if style.endOfLine then [10] else [] }

/-- The command of a name, from its arguments and its input; those of a shell have escapes in
`echo`. -/
def command? (inShell : Bool) (name : String) (args : List String) (input : List UInt8) :
    Option Finished :=
  match name with
  | "echo" =>
    let (style, args) :=
      if inShell then EchoStyle.ofShellArguments args else EchoStyle.ofArguments {} args
    some (echo style args)
  | "printf" => some (printf args)
  | "cat" => some (if args.all (· == "-") then { output := input } else { status := 1 })
  | "true" | "sleep" => some {}
  | "false" => some { status := 1 }
  | _ => none

end NodeSidecar.Host
