/-
**How a field is written.**

A field is a list of terms with commas between them.  The readers take a field from the front of a
text and find its end themselves, so that two things have to be shown of them.  What they take is
a written field, but for the blanks that they pass over.  And they take a written field as the terms
that it is written as, provided that what follows does not continue it: a letter or a digit would,
and so would a hyphen, a stroke or a comma, even behind blanks.

Fields with blanks between them are therefore read in turn, each as the unit of its position, if
and only if each of them is a written field by itself.

Main definitions:

* `Cron.Span.Written`, `Cron.Term.Written`, `Cron.Written` — the grammar of a field;
* `Cron.Took` — the text that a reader has taken, without its blanks;
* `Cron.Stops` — a text that does not continue what stands before it.

Main results:

* `Cron.took_terms` — **what is taken is a written field**;
* `Cron.terms?_written` — **a written field is taken as its terms**;
* `Cron.terms?_eq_some_iff` — the text of a field on its own;
* `Cron.readInTurn_iff` — **fields are read in turn when each is a written field**.
-/

import NodeSidecar.Proofs.Cron.Reading
import Mathlib.Data.List.Forall2
import Mathlib.Data.List.TakeWhile

set_option autoImplicit false

namespace NodeSidecar

/-! ### Characters and numerals -/

namespace Text

theorem numeralFrom_of_digits {cs : List Char} (h : ∀ c ∈ cs, isDigit c = true) (acc : Nat) :
    numeralFrom 10 hexValue? acc cs = some (Nat.ofDigitChars 10 cs acc) := by
  induction cs generalizing acc with
  | nil => rfl
  | cons c cs ih =>
      have hc : isDigit c = true := h c List.mem_cons_self
      have hvalue : hexValue? c = some (c.toNat - 48) := if_pos hc
      have hlt : c.toNat - 48 < 10 := by
        simp only [isDigit, Bool.and_eq_true, decide_eq_true_eq] at hc
        have hle : c.toNat ≤ 57 := hc.2
        omega
      rw [numeralFrom, hvalue, Nat.ofDigitChars_cons, Nat.mul_comm 10 acc]
      simp only [hlt, ↓reduceIte]
      exact ih (fun d hd => h d (List.mem_cons_of_mem c hd)) _

/-- A run of digits is read as the number that it denotes. -/
theorem ofDigits?_of_digits {cs : List Char} (hne : cs ≠ []) (h : ∀ c ∈ cs, isDigit c = true) :
    ofDigits? cs = some (Nat.ofDigitChars 10 cs 0) := by
  have hempty : cs.isEmpty = false := List.isEmpty_eq_false_iff.2 hne
  rw [ofDigits?, numeral?, hempty, if_neg Bool.false_ne_true, numeralFrom_of_digits h]

end Text

namespace Cron

/-- A blank that the readers of fields pass over. -/
def isSpace (c : Char) : Bool := c == ' ' || c == '\t'

/-- A character that a field can begin with. -/
def isStart (c : Char) : Bool := c == '*' || c == '?' || Text.isDigit c || Text.isLetter c

theorem isStart_of_isDigit {c : Char} (h : Text.isDigit c = true) : isStart c = true := by
  simp [isStart, h]

theorem isStart_of_isLetter {c : Char} (h : Text.isLetter c = true) : isStart c = true := by
  simp [isStart, h]

/-- The marks between the pieces of a field do not begin one. -/
theorem isStart_of_mark {m : Char} (h : m ∈ ['-', '/', ',']) : isStart m = false := by
  simp only [List.mem_cons, List.not_mem_nil, or_false] at h
  rcases h with rfl | rfl | rfl <;> rfl

theorem isDigit_of_isLetter {c : Char} (h : Text.isLetter c = true) : Text.isDigit c = false := by
  simp only [Text.isLetter, Bool.or_eq_true, Bool.and_eq_true, decide_eq_true_eq] at h
  have hge : 65 ≤ c.toNat := h.elim (fun h => Nat.le_trans (by decide) h.1) And.left
  rw [Bool.eq_false_iff]
  intro hdigit
  simp only [Text.isDigit, Bool.and_eq_true, decide_eq_true_eq] at hdigit
  have hle : c.toNat ≤ 57 := hdigit.2
  omega

/-- Two characters are different when only one of them has a property. -/
theorem ne_of_property {p : Char → Bool} {c d : Char} (hc : p c = true) (hd : p d = false) :
    c ≠ d := by
  rintro rfl
  rw [hc] at hd
  cases hd

theorem isSpace_eq_false_of_ne {c : Char} (h₁ : c ≠ ' ') (h₂ : c ≠ '\t') : isSpace c = false := by
  simp [isSpace, h₁, h₂]

theorem isSpace_of_isStart {c : Char} (h : isStart c = true) : isSpace c = false :=
  isSpace_eq_false_of_ne (ne_of_property h (by decide)) (ne_of_property h (by decide))

theorem skipSpaces_cons {c : Char} (h : isSpace c = false) (cs : List Char) :
    skipSpaces (c :: cs) = c :: cs :=
  List.dropWhile_cons_of_neg (by rw [← isSpace, h]; exact Bool.false_ne_true)

theorem skipSpaces_space {c : Char} (h : isSpace c = true) (cs : List Char) :
    skipSpaces (c :: cs) = skipSpaces cs :=
  List.dropWhile_cons_of_pos h

theorem skipSpaces_skipSpaces (cs : List Char) : skipSpaces (skipSpaces cs) = skipSpaces cs := by
  induction cs with
  | nil => rfl
  | cons c cs ih =>
      cases h : isSpace c with
      | true => rw [skipSpaces_space h, ih]
      | false => rw [skipSpaces_cons h, skipSpaces_cons h]

/-! ### The grammar of a field -/

/-- The digits of an ordinal below 2 ^ 32, with any zeros in front. -/
structure Numeral (n : Nat) (w : List Char) : Prop where
  ne_nil : w ≠ []
  digits : ∀ c ∈ w, Text.isDigit c = true
  value : Nat.ofDigitChars 10 w 0 = n
  lt : n < UInt32.size

/-- A name, of letters only. -/
structure Letters (w : List Char) : Prop where
  ne_nil : w ≠ []
  letters : ∀ c ∈ w, Text.isLetter c = true

/-- **How a span is written.**  The sign for any value is one where it is allowed. -/
inductive Span.Written (allowsAny : Bool) : Span → List Char → Prop
  | all : Span.Written allowsAny .all ['*']
  | any (h : allowsAny = true) : Span.Written allowsAny .all ['?']
  | point {n : Nat} {w : List Char} (h : Numeral n w) : Span.Written allowsAny (.point n) w
  | range {a b : Nat} {v w : List Char} (ha : Numeral a v) (hb : Numeral b w) :
      Span.Written allowsAny (.range a b) (v ++ '-' :: w)
  | named {a b : List Char} (ha : Letters a) (hb : Letters b) :
      Span.Written allowsAny (.named a b) (a ++ '-' :: b)

/-- **How a term is written.** -/
inductive Term.Written (allowsAny : Bool) : Term → List Char → Prop
  | span {s : Span} {w : List Char} (h : s.Written allowsAny w) : Term.Written allowsAny (.span s) w
  | every {s : Span} {step : Nat} {v w : List Char} (h : s.Written allowsAny v)
      (hstep : Numeral step w) : Term.Written allowsAny (.every s step) (v ++ '/' :: w)
  | name {w : List Char} (h : Letters w) : Term.Written allowsAny (.name w) w

/-- **How a field is written**: terms with commas between them. -/
inductive Written (allowsAny : Bool) : List Term → List Char → Prop
  | one {t : Term} {w : List Char} (h : t.Written allowsAny w) : Written allowsAny [t] w
  | cons {t : Term} {ts : List Term} {v w : List Char} (h : t.Written allowsAny v)
      (hs : Written allowsAny ts w) : Written allowsAny (t :: ts) (v ++ ',' :: w)

variable {a : Bool} {s : Span} {t : Term} {ts : List Term} {n : Nat}
variable {cs left mid rest v w : List Char}

/-! ### How a field begins -/

/-- A text that begins as a field does. -/
def Begins (w : List Char) : Prop := ∃ c more, w = c :: more ∧ isStart c = true

theorem Begins.append (h : Begins v) (w : List Char) : Begins (v ++ w) := by
  obtain ⟨c, more, rfl, hc⟩ := h
  exact ⟨c, more ++ w, rfl, hc⟩

theorem begins_of_run (hne : w ≠ []) (hw : ∀ c ∈ w, isStart c = true) : Begins w := by
  obtain ⟨c, more, rfl⟩ := List.exists_cons_of_ne_nil hne
  exact ⟨c, more, rfl, hw c List.mem_cons_self⟩

theorem Numeral.begins (h : Numeral n w) : Begins w :=
  begins_of_run h.ne_nil fun c hc => isStart_of_isDigit (h.digits c hc)

theorem Letters.begins (h : Letters w) : Begins w :=
  begins_of_run h.ne_nil fun c hc => isStart_of_isLetter (h.letters c hc)

theorem Span.Written.begins (h : s.Written a w) : Begins w := by
  cases h with
  | all => exact ⟨'*', [], rfl, rfl⟩
  | any => exact ⟨'?', [], rfl, rfl⟩
  | point hn => exact hn.begins
  | range hb => exact hb.begins.append _
  | named hb => exact hb.begins.append _

theorem Term.Written.begins (h : t.Written a w) : Begins w := by
  cases h with
  | span hs => exact hs.begins
  | every hs => exact hs.begins.append _
  | name hn => exact hn.begins

theorem Written.begins (h : Written a ts w) : Begins w := by
  cases h with
  | one ht => exact ht.begins
  | cons ht => exact ht.begins.append _

theorem Begins.skipSpaces_append (h : Begins w) (rest : List Char) :
    skipSpaces (w ++ rest) = w ++ rest := by
  obtain ⟨c, more, rfl, hc⟩ := h
  exact skipSpaces_cons (isSpace_of_isStart hc) _

/-! ### What is taken -/

/-- A text without the blanks that are passed over. -/
def unspaced (cs : List Char) : List Char := cs.filter fun c => !isSpace c

/-- What a reader has **taken** from a text, without its blanks: what stands there before what is
left. -/
def Took (cs left v : List Char) : Prop := ∃ w, cs = w ++ left ∧ unspaced w = v

theorem unspaced_eq_self (h : ∀ c ∈ w, isSpace c = false) : unspaced w = w :=
  List.filter_eq_self.2 fun c hc => by rw [h c hc]; rfl

theorem Took.append (h : Took cs mid v) (h' : Took mid left w) : Took cs left (v ++ w) := by
  obtain ⟨x, rfl, rfl⟩ := h
  obtain ⟨y, rfl, rfl⟩ := h'
  exact ⟨x ++ y, (List.append_assoc x y left).symm, List.filter_append x y⟩

theorem took_skipSpaces (cs : List Char) : Took cs (skipSpaces cs) [] := by
  refine ⟨cs.takeWhile isSpace, List.takeWhile_append_dropWhile.symm, ?_⟩
  refine List.filter_eq_nil_iff.2 fun c hc => ?_
  have hspace : isSpace c = true := List.mem_takeWhile_imp hc
  simp [hspace]

theorem took_mark {m : Char} (hm : isSpace m = false) (h : mark? m cs = some left) :
    Took cs left [m] := by
  cases cs with
  | nil => cases h
  | cons c cs =>
      by_cases hc : c = m
      · subst hc
        rw [mark?, if_pos rfl] at h
        obtain rfl := Option.some.inj h
        exact ⟨[c], rfl, unspaced_eq_self (by simpa using hm)⟩
      · rw [mark?, if_neg hc] at h
        cases h

/-- The characters at the front that have a property, when no blank has it. -/
theorem took_takeWhile {p : Char → Bool} (hp : ∀ c, p c = true → isSpace c = false) :
    Took cs (cs.dropWhile p) (cs.takeWhile p) :=
  ⟨_, List.takeWhile_append_dropWhile.symm,
    unspaced_eq_self fun c hc => hp c (List.mem_takeWhile_imp hc)⟩

/-- What is taken of a run of characters with blanks around it. -/
theorem took_run {p : Char → Bool} (hp : ∀ c, p c = true → isSpace c = false) :
    Took cs (skipSpaces ((skipSpaces cs).dropWhile p)) ((skipSpaces cs).takeWhile p) := by
  have htook := ((took_skipSpaces cs).append (took_takeWhile hp)).append (took_skipSpaces _)
  rwa [List.nil_append, List.append_nil] at htook

theorem took_ordinal (h : ordinal? cs = some (n, left)) : ∃ w, Numeral n w ∧ Took cs left w := by
  simp only [ordinal?, Option.bind_eq_bind, Option.bind_eq_some_iff] at h
  obtain ⟨k, hk, h⟩ := h
  split at h
  · next hlt =>
    obtain ⟨rfl, rfl⟩ : k = n ∧ _ = left := by simpa using h
    have hdigits : ∀ c ∈ (skipSpaces cs).takeWhile Text.isDigit, Text.isDigit c = true :=
      fun c hc => List.mem_takeWhile_imp hc
    have hne : (skipSpaces cs).takeWhile Text.isDigit ≠ [] := by
      intro hnil
      rw [hnil] at hk
      cases hk
    rw [Text.ofDigits?_of_digits hne hdigits] at hk
    exact ⟨_, ⟨hne, hdigits, Option.some.inj hk, hlt⟩,
      took_run fun c hc => isSpace_of_isStart (isStart_of_isDigit hc)⟩
  · cases h

theorem took_name {name : List Char} (h : name? cs = some (name, left)) :
    Letters name ∧ Took cs left name := by
  simp only [name?] at h
  split at h
  · cases h
  · next hne =>
    obtain ⟨rfl, rfl⟩ : _ = name ∧ _ = left := by simpa using h
    exact ⟨⟨hne, fun c hc => List.mem_takeWhile_imp hc⟩,
      took_run fun c hc => isSpace_of_isStart (isStart_of_isLetter hc)⟩

theorem took_range (h : range? cs = some (s, left)) : ∃ w, s.Written a w ∧ Took cs left w := by
  simp only [range?, Option.bind_eq_bind, Option.bind_eq_some_iff, Option.pure_def,
    Option.some.injEq, Prod.mk.injEq] at h
  obtain ⟨⟨m, c₁⟩, h₁, c₂, h₂, ⟨k, c₃⟩, h₃, rfl, rfl⟩ := h
  obtain ⟨v, hv, htook₁⟩ := took_ordinal h₁
  obtain ⟨w, hw, htook₃⟩ := took_ordinal h₃
  exact ⟨_, .range hv hw, htook₁.append ((took_mark (by decide) h₂).append htook₃)⟩

theorem took_namedRange (h : namedRange? cs = some (s, left)) :
    ∃ w, s.Written a w ∧ Took cs left w := by
  simp only [namedRange?, Option.bind_eq_bind, Option.bind_eq_some_iff, Option.pure_def,
    Option.some.injEq, Prod.mk.injEq] at h
  obtain ⟨⟨m, c₁⟩, h₁, c₂, h₂, ⟨k, c₃⟩, h₃, rfl, rfl⟩ := h
  obtain ⟨hv, htook₁⟩ := took_name h₁
  obtain ⟨hw, htook₃⟩ := took_name h₃
  exact ⟨_, .named hv hw, htook₁.append ((took_mark (by decide) h₂).append htook₃)⟩

theorem span?_eq_some : span? a cs = some (s, left) ↔
    a = true ∧ mark? '?' cs = some left ∧ .all = s ∨
    (a = true → mark? '?' cs = none) ∧ (mark? '*' cs = some left ∧ .all = s ∨
      mark? '*' cs = none ∧ (range? cs = some (s, left) ∨
        range? cs = none ∧ ((∃ n, ordinal? cs = some (n, left) ∧ .point n = s) ∨
          ordinal? cs = none ∧ namedRange? cs = some (s, left)))) := by
  simp [span?, Option.or_eq_some_iff]

theorem took_span (h : span? a cs = some (s, left)) : ∃ w, s.Written a w ∧ Took cs left w := by
  obtain ⟨ha, hany, rfl⟩ | ⟨-, ⟨hall, rfl⟩ | ⟨-, hrange | ⟨-, ⟨n, hpoint, rfl⟩ | ⟨-, hnamed⟩⟩⟩⟩ :=
    span?_eq_some.1 h
  · exact ⟨_, .any ha, took_mark (by decide) hany⟩
  · exact ⟨_, .all, took_mark (by decide) hall⟩
  · exact took_range hrange
  · obtain ⟨w, hw, htook⟩ := took_ordinal hpoint
    exact ⟨w, .point hw, htook⟩
  · exact took_namedRange hnamed

theorem took_everyTerm (h : everyTerm? a cs = some (t, left)) :
    ∃ w, t.Written a w ∧ Took cs left w := by
  simp only [everyTerm?, Option.bind_eq_bind, Option.bind_eq_some_iff, Option.pure_def,
    Option.some.injEq, Prod.mk.injEq] at h
  obtain ⟨⟨s, c₁⟩, h₁, c₂, h₂, ⟨k, c₃⟩, h₃, rfl, rfl⟩ := h
  obtain ⟨v, hv, htook₁⟩ := took_span h₁
  obtain ⟨w, hw, htook₃⟩ := took_ordinal h₃
  exact ⟨_, .every hv hw, htook₁.append ((took_mark (by decide) h₂).append htook₃)⟩

theorem term?_eq_some : term? a cs = some (t, left) ↔
    everyTerm? a cs = some (t, left) ∨ everyTerm? a cs = none ∧
      ((∃ s, span? a cs = some (s, left) ∧ .span s = t) ∨
        span? a cs = none ∧ ∃ name, name? cs = some (name, left) ∧ .name name = t) := by
  simp [term?, Option.or_eq_some_iff]

theorem took_term (h : term? a cs = some (t, left)) : ∃ w, t.Written a w ∧ Took cs left w := by
  obtain hevery | ⟨-, ⟨s, hspan, rfl⟩ | ⟨-, name, hname, rfl⟩⟩ := term?_eq_some.1 h
  · exact took_everyTerm hevery
  · obtain ⟨w, hw, htook⟩ := took_span hspan
    exact ⟨w, .span hw, htook⟩
  · obtain ⟨hletters, htook⟩ := took_name hname
    exact ⟨name, .name hletters, htook⟩

/-- What is taken after a term: nothing, or a comma and a field. -/
theorem took_moreTerms {fuel : Nat} (h : moreTerms a fuel cs = (ts, left)) :
    (ts = [] ∧ left = cs) ∨ ∃ w, Written a ts w ∧ Took cs left (',' :: w) := by
  induction fuel generalizing cs ts with
  | zero =>
      obtain ⟨rfl, rfl⟩ : [] = ts ∧ cs = left := by simpa [moreTerms] using h
      exact .inl ⟨rfl, rfl⟩
  | succ fuel ih =>
      simp only [moreTerms] at h
      split at h
      · next t rest hterm =>
        obtain ⟨behind, hcomma, hterm⟩ := Option.bind_eq_some_iff.1 hterm
        have hmark : Took cs behind [','] := took_mark (by decide) hcomma
        obtain ⟨v, hv, htook⟩ := took_term hterm
        obtain ⟨rfl, rfl⟩ : t :: (moreTerms a fuel rest).1 = ts ∧
            (moreTerms a fuel rest).2 = left := by simpa using h
        rcases ih rfl with ⟨hnil, hleft⟩ | ⟨w, hw, hrest⟩
        · rw [hnil, hleft]
          exact .inr ⟨v, .one hv, hmark.append htook⟩
        · exact .inr ⟨_, .cons hv hw, hmark.append (htook.append hrest)⟩
      · obtain ⟨rfl, rfl⟩ : [] = ts ∧ cs = left := by simpa using h
        exact .inl ⟨rfl, rfl⟩

/-- **What is taken is a written field.** -/
theorem took_terms (h : terms? a cs = some (ts, left)) : ∃ w, Written a ts w ∧ Took cs left w := by
  simp only [terms?, Option.bind_eq_bind, Option.bind_eq_some_iff, Option.pure_def,
    Option.some.injEq, Prod.mk.injEq] at h
  obtain ⟨⟨t, c₁⟩, hterm, rfl, rfl⟩ := h
  obtain ⟨v, hv, htook⟩ := took_term hterm
  have hfront := (took_skipSpaces cs).append htook
  have hmore : moreTerms a c₁.length c₁ = (_, _) := rfl
  rcases took_moreTerms hmore with ⟨hnil, hleft⟩ | ⟨w, hw, hrest⟩
  · rw [hnil, hleft]
    have hall := hfront.append (took_skipSpaces c₁)
    exact ⟨v, .one hv, by simpa using hall⟩
  · have hall := (hfront.append hrest).append (took_skipSpaces _)
    exact ⟨_, .cons hv hw, by simpa using hall⟩

/-! ### What may follow -/

/-- What stands behind a piece of a field and **stops** its reading: no letter or digit, and none of
the marks, not even behind blanks. -/
structure Stops (marks : List Char) (rest : List Char) : Prop where
  plain : ∀ c more, rest = c :: more → Text.isDigit c = false ∧ Text.isLetter c = false
  mark : ∀ m ∈ marks, mark? m rest = none ∧ mark? m (skipSpaces rest) = none

/-- What is left behind a piece of a field: what follows it, but perhaps for blanks. -/
def IsLeftOf (rest left : List Char) : Prop := left = rest ∨ left = skipSpaces rest

theorem IsLeftOf.skipSpaces_eq (h : IsLeftOf rest left) : skipSpaces left = skipSpaces rest := by
  rcases h with rfl | rfl
  · rfl
  · exact skipSpaces_skipSpaces rest

theorem IsLeftOf.eq_of_isSpace {c : Char} (h : IsLeftOf (c :: rest) left)
    (hc : isSpace c = false) : left = c :: rest := by
  rcases h with rfl | rfl
  · rfl
  · exact skipSpaces_cons hc rest

theorem mark?_self (m : Char) (rest : List Char) : mark? m (m :: rest) = some rest := if_pos rfl

namespace Stops

variable {marks : List Char}

theorem mono {marks' : List Char} (h : Stops marks rest) (hsub : ∀ m ∈ marks', m ∈ marks) :
    Stops marks' rest :=
  ⟨h.plain, fun m hm => h.mark m (hsub m hm)⟩

theorem nil : Stops marks [] where
  plain _ _ h := nomatch h
  mark _ _ := ⟨rfl, rfl⟩

/-- A mark stops the reading of what other marks continue. -/
theorem of_mark {c : Char} (hdigit : Text.isDigit c = false) (hletter : Text.isLetter c = false)
    (hspace : isSpace c = false) (hc : c ∉ marks) : Stops marks (c :: rest) where
  plain d more h := by
    obtain ⟨rfl, -⟩ := List.cons.inj h
    exact ⟨hdigit, hletter⟩
  mark m hm := by
    have hne : c ≠ m := fun h => hc (h ▸ hm)
    rw [skipSpaces_cons hspace]
    exact ⟨if_neg hne, if_neg hne⟩

/-- The start of another field behind a blank stops the reading. -/
theorem of_start {c : Char} (hc : isStart c = true) (hmarks : ∀ m ∈ marks, isStart m = false)
    (hblank : ' ' ∉ marks) : Stops marks (' ' :: c :: rest) where
  plain d more h := by
    obtain ⟨rfl, -⟩ := List.cons.inj h
    exact ⟨by decide, by decide⟩
  mark m hm := by
    have hne : ' ' ≠ m := fun h => hblank (h ▸ hm)
    rw [skipSpaces_space rfl, skipSpaces_cons (isSpace_of_isStart hc)]
    exact ⟨if_neg hne, if_neg (ne_of_property hc (hmarks m hm))⟩

theorem mark?_left (h : Stops marks rest) (hleft : IsLeftOf rest left) {m : Char} (hm : m ∈ marks) :
    mark? m left = none := by
  rcases hleft with rfl | rfl
  · exact (h.mark m hm).1
  · exact (h.mark m hm).2

end Stops

/-! ### Taking what is written -/

/-- A run of characters ends where none of them follows. -/
theorem takeWhile_run {p : Char → Bool} (hw : ∀ c ∈ w, p c = true)
    (hrest : ∀ c more, rest = c :: more → p c = false) :
    (w ++ rest).takeWhile p = w ∧ (w ++ rest).dropWhile p = rest := by
  rw [List.takeWhile_append_of_pos hw, List.dropWhile_append_of_pos hw]
  cases rest with
  | nil => simp
  | cons c rest =>
      have hc := hrest c rest rfl
      simp [hc]

theorem ordinal?_numeral (h : Numeral n w) (hrest : Stops [] rest) :
    ordinal? (w ++ rest) = some (n, skipSpaces rest) := by
  obtain ⟨htake, hdrop⟩ := takeWhile_run h.digits fun c more hc => (hrest.plain c more hc).1
  simp only [ordinal?, h.begins.skipSpaces_append, htake, hdrop,
    Text.ofDigits?_of_digits h.ne_nil h.digits, h.value, Option.bind_eq_bind, Option.bind_some,
    h.lt, ↓reduceIte]

theorem name?_letters (h : Letters w) (hrest : Stops [] rest) :
    name? (w ++ rest) = some (w, skipSpaces rest) := by
  obtain ⟨htake, hdrop⟩ := takeWhile_run h.letters fun c more hc => (hrest.plain c more hc).2
  have hne := h.ne_nil
  simp only [name?, h.begins.skipSpaces_append, htake, hdrop]

/-- A letter does not begin an ordinal. -/
theorem ordinal?_letters (h : Letters w) (rest : List Char) : ordinal? (w ++ rest) = none := by
  rw [ordinal?, h.begins.skipSpaces_append]
  cases w with
  | nil => exact absurd rfl h.ne_nil
  | cons c w =>
      have hc := h.letters c List.mem_cons_self
      rw [List.cons_append, List.takeWhile_cons, isDigit_of_isLetter hc]
      rfl

/-- A span that begins with a letter or digit has neither of the signs for all ordinals. -/
theorem span?_append (hne : w ≠ [])
    (hw : ∀ c ∈ w, Text.isDigit c = true ∨ Text.isLetter c = true) (rest : List Char) :
    span? a (w ++ rest) = (range? (w ++ rest) <|>
      (ordinal? (w ++ rest)).map (fun r => (Span.point r.1, r.2)) <|> namedRange? (w ++ rest)) := by
  cases w with
  | nil => exact absurd rfl hne
  | cons c w =>
      have hsign {m : Char} (hdigit : Text.isDigit m = false) (hletter : Text.isLetter m = false) :
          mark? m (c :: (w ++ rest)) = none :=
        if_neg <| (hw c List.mem_cons_self).elim (fun h => ne_of_property h hdigit)
          fun h => ne_of_property h hletter
      have hany := hsign (m := '?') (by decide) (by decide)
      have hall := hsign (m := '*') (by decide) (by decide)
      cases a <;> simp [span?, hany, hall]

theorem Numeral.span? (h : Numeral n w) (rest : List Char) :
    span? a (w ++ rest) = (range? (w ++ rest) <|>
      (ordinal? (w ++ rest)).map (fun r => (Span.point r.1, r.2)) <|> namedRange? (w ++ rest)) :=
  span?_append h.ne_nil (fun c hc => .inl (h.digits c hc)) rest

/-- A span that begins with a letter is a range of names. -/
theorem Letters.span? (h : Letters w) (rest : List Char) :
    span? a (w ++ rest) = namedRange? (w ++ rest) := by
  have hordinal := ordinal?_letters h rest
  have hrange : range? (w ++ rest) = none := by simp [range?, hordinal]
  rw [span?_append h.ne_nil (fun c hc => .inr (h.letters c hc)), hrange, hordinal]
  simp

/-- **A written span is taken as the span.** -/
theorem span?_written (h : s.Written a w) (hrest : Stops ['-'] rest) :
    ∃ left, span? a (w ++ rest) = some (s, left) ∧ IsLeftOf rest left := by
  have hplain : Stops [] rest := hrest.mono (by simp)
  have hhyphen (more : List Char) : Stops [] ('-' :: more) :=
    .of_mark (by decide) (by decide) (by decide) (by simp)
  have hskip (more : List Char) : skipSpaces ('-' :: more) = '-' :: more :=
    skipSpaces_cons (by decide) more
  cases h with
  | all =>
      refine ⟨rest, ?_, .inl rfl⟩
      cases a <;> simp [span?, mark?]
  | any ha =>
      refine ⟨rest, ?_, .inl rfl⟩
      simp [span?, mark?, ha]
  | point hn =>
      have hordinal := ordinal?_numeral hn hplain
      have hrange : range? (w ++ rest) = none := by
        simp [range?, hordinal, hrest.mark?_left (.inr rfl)]
      refine ⟨skipSpaces rest, ?_, .inr rfl⟩
      simp [hn.span?, hrange, hordinal]
  | @range b c v w hb hc =>
      have hfirst := ordinal?_numeral hb (hhyphen (w ++ rest))
      have hlast := ordinal?_numeral hc hplain
      refine ⟨skipSpaces rest, ?_, .inr rfl⟩
      have hrange : range? (v ++ '-' :: (w ++ rest)) = some (.range b c, skipSpaces rest) := by
        simp [range?, hfirst, hskip, mark?_self, hlast]
      rw [List.append_assoc, List.cons_append, hb.span?, hrange]
      rfl
  | @named b c hb hc =>
      -- a range of names is tried last, when no ordinal has been found
      have hfirst := name?_letters hb (hhyphen (c ++ rest))
      have hlast := name?_letters hc hplain
      refine ⟨skipSpaces rest, ?_, .inr rfl⟩
      rw [List.append_assoc, List.cons_append, hb.span?]
      simp [namedRange?, hfirst, hskip, mark?_self, hlast]

/-- **A written term is taken as the term.** -/
theorem term?_written (h : t.Written a w) (hrest : Stops ['-', '/'] rest) :
    ∃ left, term? a (w ++ rest) = some (t, left) ∧ IsLeftOf rest left := by
  have hstops : Stops ['-'] rest := hrest.mono (by simp)
  cases h with
  | span hs =>
      obtain ⟨left, hspan, hleft⟩ := span?_written hs hstops
      have hstroke := hrest.mark?_left hleft (m := '/') (by simp)
      refine ⟨left, ?_, hleft⟩
      simp [term?, everyTerm?, hspan, hstroke]
  | @every s step v w hs hstep =>
      have hstroke : Stops ['-'] ('/' :: (w ++ rest)) :=
        .of_mark (by decide) (by decide) (by decide) (by decide)
      obtain ⟨left, hspan, hleft⟩ := span?_written hs hstroke
      obtain rfl := hleft.eq_of_isSpace (by decide)
      have hordinal := ordinal?_numeral hstep (hrest.mono (by simp))
      refine ⟨skipSpaces rest, ?_, .inr rfl⟩
      rw [List.append_assoc, List.cons_append]
      simp [term?, everyTerm?, hspan, mark?_self, hordinal]
  | name hn =>
      have hname := name?_letters hn (hrest.mono (by simp))
      have hspan : span? a (w ++ rest) = none := by
        simp [hn.span?, namedRange?, hname, hstops.mark?_left (.inr rfl)]
      refine ⟨skipSpaces rest, ?_, .inr rfl⟩
      simp [term?, everyTerm?, hspan, hname]

theorem Written.length_le (h : Written a ts w) : ts.length ≤ w.length + 1 := by
  induction h with
  | one => simp
  | cons _ _ ih =>
      simp only [List.length_cons, List.length_append]
      omega

/-- A comma stops the reading of the term before it. -/
theorem stops_comma (more : List Char) : Stops ['-', '/'] (',' :: more) :=
  .of_mark (by decide) (by decide) (by decide) (by decide)

theorem moreTerms_nil (hcomma : mark? ',' cs = none) (fuel : Nat) :
    moreTerms a fuel cs = ([], cs) := by
  cases fuel with
  | zero => rfl
  | succ fuel => simp [moreTerms, hcomma]

theorem moreTerms_written (h : Written a ts w) (hrest : Stops ['-', '/', ','] rest) {fuel : Nat}
    (hfuel : ts.length ≤ fuel) : ∃ left, moreTerms a fuel (',' :: (w ++ rest)) = (ts, left) ∧
      IsLeftOf rest left := by
  -- each term takes up the comma before it, and one unit of the fuel
  induction h generalizing fuel with
  | one ht =>
      cases fuel with
      | zero => simp at hfuel
      | succ fuel =>
          obtain ⟨left, hterm, hleft⟩ := term?_written ht (hrest.mono (by simp))
          have hnomore := moreTerms_nil (a := a) (hrest.mark?_left hleft (m := ',') (by simp)) fuel
          exact ⟨left, by simp [moreTerms, mark?_self, hterm, hnomore], hleft⟩
  | @cons t ts v w ht _ ih =>
      cases fuel with
      | zero => simp at hfuel
      | succ fuel =>
          obtain ⟨left, hterm, hleft⟩ := term?_written ht (stops_comma (w ++ rest))
          obtain rfl := hleft.eq_of_isSpace (by decide)
          obtain ⟨left, hmore, hleft⟩ := ih (Nat.le_of_succ_le_succ hfuel)
          refine ⟨left, ?_, hleft⟩
          rw [List.append_assoc, List.cons_append]
          simp [moreTerms, mark?_self, hterm, hmore]

/-- **A written field is taken as its terms.** -/
theorem terms?_written (h : Written a ts w) (hrest : Stops ['-', '/', ','] rest) :
    terms? a (w ++ rest) = some (ts, skipSpaces rest) := by
  have hfront := h.begins.skipSpaces_append rest
  rw [terms?, hfront]
  cases h with
  | one ht =>
      obtain ⟨left, hterm, hleft⟩ := term?_written ht (hrest.mono (by simp))
      have hnomore := moreTerms_nil (a := a) (hrest.mark?_left hleft (m := ',') (by simp))
      simp [hterm, hnomore, hleft.skipSpaces_eq]
  | @cons t ts v w ht hs =>
      obtain ⟨left, hterm, hleft⟩ := term?_written ht (stops_comma (w ++ rest))
      obtain rfl := hleft.eq_of_isSpace (by decide)
      have hfuel : ts.length ≤ (',' :: (w ++ rest)).length := by
        have := hs.length_le
        simp only [List.length_cons, List.length_append]
        omega
      obtain ⟨left, hmore, hleft⟩ := moreTerms_written hs hrest hfuel
      rw [List.append_assoc, List.cons_append]
      simp only [hterm, Option.bind_eq_bind, Option.bind_some, hmore, hleft.skipSpaces_eq]
      rfl

/-- **The text of a field on its own**, without blanks. -/
theorem terms?_eq_some_iff (hw : ∀ c ∈ w, isSpace c = false) :
    terms? a w = some (ts, []) ↔ Written a ts w := by
  constructor
  · intro h
    obtain ⟨v, hv, x, hx, rfl⟩ := took_terms h
    rw [List.append_nil] at hx
    rwa [← hx, unspaced_eq_self hw] at hv
  · intro h
    have hread : terms? a (w ++ []) = some (ts, skipSpaces []) := terms?_written h .nil
    rwa [List.append_nil] at hread

/-! ### Fields in a row -/

theorem joined_singleton (field : String) : joined [field] = field.toList := by
  simp [joined]

theorem joined_cons_cons (field next : String) (fields : List String) :
    joined (field :: next :: fields) = field.toList ++ ' ' :: joined (next :: fields) := by
  simp [joined, String.intercalate_cons_cons]

theorem exists_joined_cons (field : String) (fields : List String) :
    ∃ more, joined (field :: fields) = field.toList ++ more := by
  cases fields with
  | nil => exact ⟨[], by simp [joined_singleton]⟩
  | cons next fields => exact ⟨_, joined_cons_cons field next fields⟩

/-- **The fields are written as terms**, each as those of the unit of its position. -/
def WrittenAs (terms : Unit → List Term) : List Unit → List String → Prop :=
  List.Forall₂ fun u field => Written u.allowsAny (terms u) field.toList

/-- A field that is written for the next unit stops the reading of the one before it. -/
theorem exists_stops_of_writtenAs {terms : Unit → List Term} {us : List Unit} (field : String)
    {fields : List String} (h : WrittenAs terms us fields) :
    ∃ rest, joined (field :: fields) = field.toList ++ rest ∧ Stops ['-', '/', ','] rest ∧
      skipSpaces rest = joined fields := by
  cases h with
  | nil => exact ⟨[], by simp [joined_singleton], .nil, rfl⟩
  | @cons u next us fields hnext _ =>
      obtain ⟨more, hmore⟩ := exists_joined_cons next fields
      obtain ⟨c, cs, hbegin, hc⟩ := hnext.begins.append more
      refine ⟨' ' :: joined (next :: fields), joined_cons_cons field next fields, ?_, ?_⟩
      · rw [hmore, hbegin]
        exact .of_start hc (fun _ => isStart_of_mark) (by decide)
      · rw [skipSpaces_space rfl, hmore, hnext.begins.skipSpaces_append]

/-- **Fields that are written as terms are read in turn.** -/
theorem WrittenAs.readInTurn {terms : Unit → List Term} {us : List Unit} {fields : List String}
    (h : WrittenAs terms us fields) : ReadInTurn terms us fields := by
  induction h with
  | nil => exact .nil
  | @cons u field us fields hfield hrest ih =>
      obtain ⟨rest, hjoined, hstops, hskip⟩ := exists_stops_of_writtenAs field hrest
      refine .cons ?_ ih
      rw [hjoined, terms?_written hfield hstops, hskip]

/-- What is taken when exactly the first field is. -/
theorem Took.eq_of_joined {field : String} {fields : List String}
    (hfield : ∀ c ∈ field.toList, isSpace c = false)
    (h : Took (joined (field :: fields)) (joined fields) w) : w = field.toList := by
  obtain ⟨x, hx, rfl⟩ := h
  cases fields with
  | nil =>
      have hnil : joined [] = [] := rfl
      rw [joined_singleton, hnil, List.append_nil] at hx
      rw [← hx, unspaced_eq_self hfield]
  | cons next fields =>
      -- the blank behind the field is taken with it
      rw [joined_cons_cons, List.append_cons, List.append_cancel_right_eq] at hx
      have hblank : unspaced [' '] = [] := rfl
      rw [← hx, unspaced, List.filter_append, ← unspaced, ← unspaced, unspaced_eq_self hfield,
        hblank, List.append_nil]

/-- **Fields are read in turn when each is a written field**, and only then. -/
theorem readInTurn_iff {terms : Unit → List Term} {us : List Unit} {fields : List String}
    (hfields : ∀ field ∈ fields, ∀ c ∈ field.toList, isSpace c = false) :
    ReadInTurn terms us fields ↔ WrittenAs terms us fields := by
  refine ⟨fun h => ?_, WrittenAs.readInTurn⟩
  induction h with
  | nil => exact .nil
  | cons head _ ih =>
      obtain ⟨w, hw, htook⟩ := took_terms head
      obtain rfl := htook.eq_of_joined (hfields _ List.mem_cons_self)
      exact .cons hw (ih fun field h => hfields field (List.mem_cons_of_mem _ h))

end Cron

end NodeSidecar
