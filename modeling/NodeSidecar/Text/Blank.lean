/-
**Blank characters and the texts cut at them.**

A character is blank when it has the `White_Space` property of the Unicode character database.
Configured names are rejected when they are blank throughout, calendar expressions are cut into
fields at blanks, and a process listing counts as empty when each of its lines is blank.

Main definitions:

* `isBlank` — the property;
* `allBlank` — a text without a visible character;
* `Visible` — a text with such a character;
* `words` — the maximal pieces without blanks, in order;
* `lines` — a text cut at line feeds, with the optional carriage return before each removed.

Main result: `exists_visible_line` — cutting a text into lines loses blank characters only.
-/

set_option autoImplicit false

namespace NodeSidecar.Text

/-- The characters with the `White_Space` property. -/
def isBlank (c : Char) : Bool :=
  let n := c.toNat
  (9 ≤ n && n ≤ 13) || n == 0x20 || n == 0x85 || n == 0xA0 || n == 0x1680 ||
    (0x2000 ≤ n && n ≤ 0x200A) || n == 0x2028 || n == 0x2029 || n == 0x202F || n == 0x205F ||
    n == 0x3000

/-- A text is blank throughout when it holds no visible character. -/
def allBlank (s : String) : Bool := s.toList.all isBlank

/-- A text with a character that is not blank. -/
def Visible (s : String) : Prop := ∃ c ∈ s.toList, isBlank c = false

theorem allBlank_iff {s : String} : allBlank s = true ↔ ¬ Visible s := by
  simp [allBlank, Visible]

/-- The maximal pieces of `cs` without blanks; `piece` is the one being read, backwards. -/
def wordsFrom : List Char → List Char → List (List Char)
  | piece, [] => if piece.isEmpty then [] else [piece.reverse]
  | piece, c :: cs =>
    if isBlank c then
      if piece.isEmpty then wordsFrom [] cs else piece.reverse :: wordsFrom [] cs
    else wordsFrom (c :: piece) cs

/-- The maximal pieces without blanks. -/
def words (s : String) : List String := (wordsFrom [] s.toList).map String.ofList

/-- One line of text with the carriage return at its end removed; the line is given backwards. -/
def lineOfReversed : List Char → List Char
  | '\r' :: cs => cs.reverse
  | cs => cs.reverse

/-- The lines of `cs`; `line` is the one being read, backwards.  A line feed at the end of the
text closes the last line and opens no further one. -/
def linesFrom : List Char → List Char → List (List Char)
  | line, [] => if line.isEmpty then [] else [line.reverse]
  | line, c :: cs =>
    if c = '\n' then lineOfReversed line :: linesFrom [] cs else linesFrom (c :: line) cs

/-- The lines of a text. -/
def lines (s : String) : List String := (linesFrom [] s.toList).map String.ofList

@[simp] theorem isBlank_space : isBlank ' ' = true := by decide

@[simp] theorem isBlank_lineFeed : isBlank '\n' = true := by decide

@[simp] theorem isBlank_carriageReturn : isBlank '\r' = true := by decide

/-- What the end of a line loses is blank. -/
theorem exists_visible_lineOfReversed {line : List Char} :
    (∃ c ∈ lineOfReversed line, isBlank c = false) ↔ ∃ c ∈ line, isBlank c = false := by
  unfold lineOfReversed
  split
  · simp
  · simp

/-- A character that is not blank stands in one of the lines. -/
theorem exists_visible_linesFrom {line cs : List Char} :
    (∃ l ∈ linesFrom line cs, ∃ c ∈ l, isBlank c = false) ↔
      (∃ c ∈ line, isBlank c = false) ∨ ∃ c ∈ cs, isBlank c = false := by
  induction cs generalizing line with
  | nil =>
      unfold linesFrom
      split
      · next hempty => simp [List.isEmpty_iff.1 hempty]
      · simp
  | cons d cs ih =>
      unfold linesFrom
      split
      · next hfeed =>
        subst hfeed
        simp only [List.mem_cons, exists_eq_or_imp, exists_visible_lineOfReversed, ih]
        simp
      · simp only [ih, List.mem_cons, exists_eq_or_imp]
        rw [or_assoc, or_left_comm]

/-- **A text is visible when one of its lines is.** -/
theorem exists_visible_line {s : String} : (∃ line ∈ lines s, Visible line) ↔ Visible s := by
  have h : (∃ l ∈ linesFrom [] s.toList, ∃ c ∈ l, isBlank c = false) ↔
      ∃ c ∈ s.toList, isBlank c = false := by
    rw [exists_visible_linesFrom]
    simp
  rw [Visible, ← h]
  constructor
  · rintro ⟨line, hline, hvisible⟩
    obtain ⟨l, hl, rfl⟩ := List.mem_map.1 hline
    exact ⟨l, hl, by simpa [Visible] using hvisible⟩
  · rintro ⟨l, hl, hvisible⟩
    exact ⟨_, List.mem_map_of_mem hl, by simpa [Visible] using hvisible⟩

end NodeSidecar.Text
