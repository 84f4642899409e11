/-
**Paths.**

A path is a text and the names on the way to what it leads to, from the root or from the directory
that texts without a leading slash start in.  Empty names and points stand for no step, two points
for the step back.

Main definitions:

* `FilePath`, `FilePath.ofText` — a path and the path of a text;
* `FilePath.parts` — the names of a text;
* `FilePath.child`, `FilePath.within` — the path of a name in a directory, and of any text;
* `FilePath.endsInPoint`, `FilePath.namesDirectory` — whether the last name of the text is a
  point, and whether the text can lead to a directory only.

Main result:

* `FilePath.within_of_plain` — a plain name leads to its path in the directory.
-/

set_option autoImplicit false

namespace NodeSidecar

/-- A path: its text and the names on the way. -/
structure FilePath where
  text : String
  names : List String
  deriving DecidableEq, Repr

namespace FilePath

/-- The way after one more name of a text. -/
def step (way : List String) (name : String) : List String :=
  if name = "" ∨ name = "." then way
  else if name = ".." then way.dropLast
  else way ++ [name]

/-- The names between the slashes of a text. -/
def parts (s : String) : List String := (s.toList.splitOn '/').map String.ofList

/-- A text without a slash is one name. -/
theorem parts_of_not_mem {s : String} (h : '/' ∉ s.toList) : parts s = [s] := by
  rw [parts, List.splitOn_eq_singleton h, List.map_singleton, String.ofList_toList]

/-- The name of the root. -/
def rootName : String := "/"

/-- The way of a text that starts with a slash, or of one that does not. -/
def namesOf (s : String) : List String :=
  let way := (parts s).foldl step []
  if s.startsWith "/" then rootName :: way else way

/-- The path of a text. -/
def ofText (s : String) : FilePath := ⟨s, namesOf s⟩

/-- Whether the last name of the text is a point. -/
def endsInPoint (p : FilePath) : Bool := (parts p.text).getLast? == some "."

/-- Whether the text can lead to a directory only. -/
def namesDirectory (p : FilePath) : Bool := p.text.endsWith "/" || p.endsInPoint

/-- A text and a name behind it, with one slash between them. -/
def joined (directory name : String) : String :=
  if directory = "" ∨ directory.endsWith "/" then directory ++ name else directory ++ "/" ++ name

/-- The path of a plain name in a directory. -/
def child (directory : FilePath) (name : String) : FilePath :=
  ⟨joined directory.text name, directory.names ++ [name]⟩

@[simp] theorem names_child (directory : FilePath) (name : String) :
    (directory.child name).names = directory.names ++ [name] := rfl

/-- The path that a text leads to from a directory. -/
def within (directory : FilePath) (s : String) : FilePath :=
  if s.startsWith "/" then ofText s
  else ⟨joined directory.text s, (parts s).foldl step directory.names⟩

/-- A plain name leads to its path in the directory. -/
theorem within_of_plain (directory : FilePath) {name : String} (hslash : '/' ∉ name.toList)
    (hstep : step directory.names name = directory.names ++ [name]) :
    directory.within name = directory.child name := by
  have hstart : ¬ name.startsWith "/" = true := by
    rw [String.startsWith_string_iff]
    exact fun h => hslash (h.subset List.mem_cons_self)
  rw [within, if_neg hstart, parts_of_not_mem hslash, List.foldl_cons, List.foldl_nil, hstep, child]

end FilePath

end NodeSidecar
