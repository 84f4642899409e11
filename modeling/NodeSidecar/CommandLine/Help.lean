/-
**Help on the command line.**

A help page tells what a command does, how it is called, and lists what it takes, each kind in
columns of its own.

Main definitions:

* `HelpPage`, `HelpPage.text` — a page and its text;
* `Topic`, `Topic.page` — what there is help for, and its page.
-/

set_option autoImplicit false

namespace NodeSidecar.CommandLine

/-- The name of the program. -/
def programName : String := "ringside"

/-- The version of the program. -/
def versionText : String := programName ++ " 0.1.0\n"

/-- A list of terms with what they mean. -/
structure HelpList where
  title : String
  entries : List (String × String)

/-- A page of help. -/
structure HelpPage where
  about : String
  usage : String
  lists : List HelpList

namespace HelpList

/-- A text with blanks behind it up to a width. -/
def padRight (width : Nat) (s : String) : String :=
  s ++ String.ofList (List.replicate (width - s.length) ' ')

/-- The text of a list. -/
def text (l : HelpList) : String :=
  let width := (l.entries.map fun e => e.1.length).foldl max 0
  l.entries.foldl (fun acc e => acc ++ "  " ++ padRight width e.1 ++ "  " ++ e.2 ++ "\n")
    ("\n" ++ l.title ++ ":\n")

end HelpList

/-- The text of a page. -/
def HelpPage.text (p : HelpPage) : String :=
  p.lists.foldl (fun acc l => acc ++ l.text)
    (p.about ++ "\n\nUsage: " ++ programName ++ " " ++ p.usage ++ "\n")

/-- What there is help for. -/
inductive Topic where
  | program
  | run
  | validate
  | manifest
  | help
  deriving DecidableEq, Repr

namespace Topic

/-- The commands with their names. -/
def named : List (String × Topic) :=
  [("run", run), ("validate", validate), ("manifest", manifest), ("help", help)]

/-- What a topic is about. -/
def about : Topic → String
  | program =>
    "Per-node sidecar for clustered data stores: process health, ring membership and ACL sync, "
      ++ "recurring tasks"
  | run => "Run the sidecar"
  | validate => "Validate a configuration file without running"
  | manifest => "Write a backup manifest and print its path"
  | help => "Print this message or the help of the given subcommand(s)"

/-- The configuration as an argument. -/
def configArgument : HelpList := ⟨"Arguments", [("<CONFIG>", "Path to the sidecar YAML file")]⟩

/-- The option for help. -/
def helpOption : String × String := ("-h, --help", "Print help")

/-- The page of a topic. -/
def page (t : Topic) : HelpPage :=
  match t with
  | program =>
    ⟨about t, "<COMMAND>",
      [⟨"Commands", named.map fun (name, topic) => (name, about topic)⟩,
       ⟨"Options", [helpOption, ("-V, --version", "Print version")]⟩]⟩
  | run => ⟨about t, "run <CONFIG>", [configArgument, ⟨"Options", [helpOption]⟩]⟩
  | validate => ⟨about t, "validate <CONFIG>", [configArgument, ⟨"Options", [helpOption]⟩]⟩
  | manifest =>
    ⟨about t, "manifest [OPTIONS] <CONFIG>",
      [configArgument,
       ⟨"Options",
         [("    --id <ID>", "Backup identifier (default: incremental manifest)"), helpOption]⟩]⟩
  | help =>
    ⟨about t, "help [COMMAND]...",
      [⟨"Arguments", [("[COMMAND]...", "Print help for the subcommand(s)")]⟩]⟩

end Topic

end NodeSidecar.CommandLine
