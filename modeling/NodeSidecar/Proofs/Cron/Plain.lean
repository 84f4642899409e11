/-
**Expressions of plain fields.**

A plain field is a single term: all ordinals, one ordinal, or one name.  It is a written field, so
that plain fields with blanks between them are read in turn, each as the unit of its position, and
an expression of plain fields is accepted when each makes sense for its unit.

Main definition: `Cron.Plain` — a plain field, with its text and its term.

Main results:

* `Cron.words_intercalate` — the words of words with blanks between them;
* `Cron.Plain.written` — a plain field is written as its term;
* `Cron.readInTurn_plain` — **plain fields are read in turn**;
* `Cron.exists_schedule_of_plain` — an expression of plain fields that make sense is accepted.
-/

import NodeSidecar.Proofs.Cron.Written

set_option autoImplicit false

namespace NodeSidecar

/-! ### Numerals -/

namespace Text

theorem isDigit_of_mem_digits {n : Nat} {c : Char} (h : c ∈ digits n) : isDigit c = true :=
  Nat.isDigit_of_mem_toDigits (by decide) (Nat.le_refl 10) h

theorem digits_ne_nil (n : Nat) : digits n ≠ [] := Nat.toDigits_ne_nil

end Text

namespace Cron

/-! ### Words -/

theorem wordsFrom_append {w : List Char} (hw : ∀ c ∈ w, Text.isBlank c = false)
    (piece rest : List Char) :
    Text.wordsFrom piece (w ++ rest) = Text.wordsFrom (w.reverse ++ piece) rest := by
  induction w generalizing piece with
  | nil => rfl
  | cons c w ih =>
      have hc := hw c List.mem_cons_self
      have hrest := ih (fun d hd => hw d (List.mem_cons_of_mem c hd)) (c :: piece)
      simpa [Text.wordsFrom, hc] using hrest

/-- **The words of words with blanks between them.** -/
theorem words_intercalate {ws : List String}
    (hws : ∀ w ∈ ws, w.toList ≠ [] ∧ ∀ c ∈ w.toList, Text.isBlank c = false) :
    Text.words (" ".intercalate ws) = ws := by
  have hchars : Text.wordsFrom [] (joined ws) = ws.map String.toList := by
    induction ws with
    | nil => rfl
    | cons w ws ih =>
        obtain ⟨hne, hw⟩ := hws w List.mem_cons_self
        have hrest := ih fun v hv => hws v (List.mem_cons_of_mem w hv)
        cases ws with
        | nil =>
            have hend := wordsFrom_append hw [] []
            rw [List.append_nil, List.append_nil] at hend
            simp [joined_singleton, hend, Text.wordsFrom, hne]
        | cons v vs =>
            rw [joined_cons_cons, wordsFrom_append hw, List.append_nil]
            simp [Text.wordsFrom, hne, hrest]
  rw [Text.words]
  change (Text.wordsFrom [] (joined ws)).map String.ofList = ws
  rw [hchars, List.map_map]
  simp [Function.comp_def]

/-! ### Plain fields -/

/-- A field that stands for all ordinals, for one ordinal or for one name. -/
inductive Plain where
  | all
  | point (n : Nat)
  | name (letters : List Char)

namespace Plain

/-- How a plain field is written. -/
def chars : Plain → List Char
  | all => ['*']
  | point n => Text.digits n
  | name letters => letters

/-- The text of a plain field. -/
def text (p : Plain) : String := String.ofList p.chars

/-- The term of a plain field. -/
def term : Plain → Term
  | all => .span .all
  | point n => .span (.point n)
  | name letters => .name letters

/-- A plain field makes sense for a unit when it stands for ordinals of the unit. -/
def Suits (u : Unit) : Plain → Prop
  | all => True
  | point n => u.holds n = true
  | name letters => letters ≠ [] ∧ (∀ c ∈ letters, Text.isLetter c = true) ∧
      ∃ k, u.named? letters = some k

end Plain

/-! ### The text of a plain field -/

/-- The characters of plain fields. -/
def isPlainChar (c : Char) : Bool := c == '*' || Text.isDigit c || Text.isLetter c

theorem isPlainChar_of_isDigit {c : Char} (h : Text.isDigit c = true) : isPlainChar c = true := by
  simp [isPlainChar, h]

theorem isPlainChar_of_isLetter {c : Char} (h : Text.isLetter c = true) : isPlainChar c = true := by
  simp [isPlainChar, h]

theorem isBlank_of_isPlainChar {c : Char} (h : isPlainChar c = true) : Text.isBlank c = false := by
  have hcode : c.toNat = 42 ∨ 48 ≤ c.toNat ∧ c.toNat ≤ 57 ∨ 97 ≤ c.toNat ∧ c.toNat ≤ 122 ∨
      65 ≤ c.toNat ∧ c.toNat ≤ 90 := by
    simp only [isPlainChar, Text.isDigit, Text.isLetter, Bool.or_eq_true, beq_iff_eq,
      Bool.and_eq_true, decide_eq_true_eq] at h
    rcases h with (rfl | h) | h | h
    · exact .inl rfl
    · exact .inr (.inl h)
    · exact .inr (.inr (.inl h))
    · exact .inr (.inr (.inr h))
  simp only [Text.isBlank, Bool.or_eq_false_iff, Bool.and_eq_false_iff, beq_eq_false_iff_ne,
    decide_eq_false_iff_not, ne_eq]
  omega

theorem Unit.lt_of_holds {u : Unit} {n : Nat} (h : u.holds n = true) : n < UInt32.size := by
  have hle := (holds_iff.1 h).2
  have hgreatest : u.greatest ≤ 2100 := by cases u <;> decide
  exact Nat.lt_of_le_of_lt (Nat.le_trans hle hgreatest) (by decide)

/-- **A plain field is written as its term.** -/
theorem Plain.written {a : Bool} {u : Unit} {p : Plain} (hp : p.Suits u) :
    Written a [p.term] p.chars := by
  cases p with
  | all => exact .one (.span .all)
  | point n =>
      exact .one <| .span <| .point ⟨Text.digits_ne_nil n, fun c => Text.isDigit_of_mem_digits,
        Nat.ofDigitChars_ten_toDigits, Unit.lt_of_holds hp⟩
  | name letters => exact .one (.name ⟨hp.1, hp.2.1⟩)

theorem Plain.chars_ne_nil {u : Unit} {p : Plain} (hp : p.Suits u) : p.chars ≠ [] := by
  cases p with
  | all => exact List.cons_ne_nil _ _
  | point n => exact Text.digits_ne_nil n
  | name letters => exact hp.1

theorem Plain.isPlainChar_of_mem {u : Unit} {p : Plain} (hp : p.Suits u) {c : Char}
    (hc : c ∈ p.chars) : isPlainChar c = true := by
  cases p with
  | all => rw [List.mem_singleton.1 hc]; rfl
  | point n => exact isPlainChar_of_isDigit (Text.isDigit_of_mem_digits hc)
  | name letters => exact isPlainChar_of_isLetter (hp.2.1 c hc)

/-! ### Expressions of plain fields -/

theorem Plain.toList_text (p : Plain) : p.text.toList = p.chars := String.toList_ofList

theorem Plain.visible_text {u : Unit} {p : Plain} (hp : p.Suits u) :
    p.text.toList ≠ [] ∧ ∀ c ∈ p.text.toList, Text.isBlank c = false := by
  rw [toList_text]
  exact ⟨chars_ne_nil hp, fun c hc => isBlank_of_isPlainChar (isPlainChar_of_mem hp hc)⟩

/-- A plain field is not the sign for any value. -/
theorem plainField_text {u : Unit} {p : Plain} (hp : p.Suits u) : plainField p.text = p.text := by
  refine if_neg fun h => ?_
  have hmem : '?' ∈ p.chars := by
    rw [← Plain.toList_text, h]
    exact List.mem_cons_self
  exact absurd (Plain.isPlainChar_of_mem hp hmem) (by decide)

/-- The fields of six words with blanks between them. -/
theorem fieldsOf_intercalate {ws : List String} (hlength : ws.length = 6)
    (hws : ∀ w ∈ ws, w.toList ≠ [] ∧ ∀ c ∈ w.toList, Text.isBlank c = false) :
    fieldsOf (" ".intercalate ws) = ws.map plainField := by
  rw [fieldsOf, words_intercalate hws]
  exact if_neg (by simp [hlength])

/-- **Plain fields are read in turn.** -/
theorem readInTurn_plain {us : List Unit} (f : Unit → Plain) (hf : ∀ u ∈ us, (f u).Suits u) :
    ReadInTurn (fun u => [(f u).term]) us (us.map fun u => (f u).text) := by
  refine WrittenAs.readInTurn (List.forall₂_map_right_iff.2 (List.forall₂_same.2 fun u hu => ?_))
  rw [Plain.toList_text]
  exact Plain.written (hf u hu)

/-- The ordinals that a plain field stands for. -/
def Plain.Has (u : Unit) : Plain → Nat → Prop
  | all, n => u.holds n = true
  | point k, n => n = k
  | name letters, n => u.named? letters = some n

theorem denotes_plain {u : Unit} {p : Plain} {n : Nat} : Denotes u [p.term] n ↔ p.Has u n := by
  have hone : Denotes u [p.term] n ↔ ∃ q, p.term.progression? u = some q ∧ q.Has n := by
    simp [Denotes]
  rw [hone]
  cases p with
  | all => simp [Plain.term, Term.progression?, Span.bounds?, Progression.Has, Plain.Has,
      Unit.holds_iff]
  | point k =>
      simp only [Plain.term, Term.progression?, Span.bounds?, Option.map_some, Option.some.injEq,
        exists_eq_left', Progression.Has, Nat.one_dvd, and_true, Plain.Has]
      omega
  | name letters =>
      simp only [Plain.term, Term.progression?, Option.map_eq_some_iff, Plain.Has]
      constructor
      · rintro ⟨q, ⟨k, hk, rfl⟩, h₁, h₂, -⟩
        obtain rfl : k = n := Nat.le_antisymm h₁ h₂
        exact hk
      · intro hn
        exact ⟨_, ⟨n, hn, rfl⟩, Nat.le_refl n, Nat.le_refl n, Nat.one_dvd _⟩

theorem exists_fieldOrdinals_plain {u : Unit} {p : Plain} (hp : p.Suits u) :
    ∃ ns, fieldOrdinals? u [p.term] = some ns := by
  have hterm : ∃ ns, Term.ordinals? u p.term = some ns := by
    cases p with
    | all =>
        have hall : u.ordinals.all u.holds = true :=
          List.all_eq_true.2 fun n hn => Unit.mem_ordinals.1 hn
        exact ⟨u.ordinals, by rw [Plain.term, Term.ordinals?]; exact if_pos hall⟩
    | point n =>
        have hn : u.holds n = true := hp
        exact ⟨[n], by simp [Plain.term, Term.ordinals?, Span.ordinals?, hn]⟩
    | name letters =>
        obtain ⟨-, -, k, hk⟩ := hp
        exact ⟨[k], by simp [Plain.term, Term.ordinals?, hk]⟩
  obtain ⟨ns, hns⟩ := hterm
  exact ⟨_, by rw [fieldOrdinals?, List.mapM_cons, hns]; rfl⟩

/-- **An expression of plain fields that make sense is accepted**, and allows in every year what
its fields stand for. -/
theorem exists_schedule_of_plain {expression : String} (f : Unit → Plain)
    (hf : ∀ u ∈ positions, (f u).Suits u)
    (hfields : fieldsOf expression = positions.map fun u => (f u).text) :
    ∃ s, Schedule.ofExpression expression = .ok s ∧ s.years = Unit.year.ordinals ∧
      ∀ u ∈ positions, ∀ n, n ∈ s.ordinals u ↔ (f u).Has u n := by
  have hread : ReadInTurn (fun u => [(f u).term]) positions (fieldsOf expression) :=
    hfields ▸ readInTurn_plain f hf
  obtain ⟨s, hs⟩ := exists_schedule_of_readInTurn hread fun u hu =>
    exists_fieldOrdinals_plain (hf u hu)
  obtain ⟨hordinals, hyears⟩ := schedule_of_readInTurn hs hread
  exact ⟨s, hs, hyears, fun u hu n => (hordinals u hu n).trans denotes_plain⟩

end Cron

end NodeSidecar
