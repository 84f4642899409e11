/-
**Sets of address ranges.**

The address ranges of an ingress rule form a set of texts, kept in ascending order.

Main definitions:

* `CidrSet` — an ascending list of texts;
* `CidrSet.insert`, `CidrSet.ofList`, `CidrSet.union`, `CidrSet.diff` — the set operations;
* `CidrSet.subset` — whether a set is contained in another.

Main results: `CidrSet.mem_insert`, `mem_ofList`, `mem_union`, `mem_diff` say which texts belong to
the results.
-/

set_option autoImplicit false

namespace NodeSidecar

/-- Texts in ascending order, each once. -/
structure CidrSet where
  elements : List String
  ascending : elements.Pairwise (· < ·)
  deriving DecidableEq

namespace CidrSet

/-- Sets are equal when their lists are. -/
theorem eq_of_elements_eq {a b : CidrSet} (h : a.elements = b.elements) : a = b := by
  cases a; cases b; simp_all

instance : Membership String CidrSet := ⟨fun s c => c ∈ s.elements⟩

theorem mem_iff (c : String) (s : CidrSet) : c ∈ s ↔ c ∈ s.elements := Iff.rfl

instance (c : String) (s : CidrSet) : Decidable (c ∈ s) :=
  inferInstanceAs (Decidable (c ∈ s.elements))

/-- The set without elements. -/
def empty : CidrSet := ⟨[], .nil⟩

instance : Inhabited CidrSet := ⟨empty⟩

/-- A text put into an ascending list. -/
def insertElement (c : String) : List String → List String
  | [] => [c]
  | d :: ds => if c < d then c :: d :: ds else if c = d then d :: ds else d :: insertElement c ds

theorem mem_insertElement {c x : String} {ds : List String} :
    x ∈ insertElement c ds ↔ x = c ∨ x ∈ ds := by
  induction ds with
  | nil => simp [insertElement]
  | cons d ds ih =>
    unfold insertElement
    split
    · simp
    · split
      · next h => simp [h]
      · simp only [List.mem_cons, ih]
        constructor <;> rintro (h | h | h) <;> simp [h]

theorem ascending_insertElement {c : String} {ds : List String} (h : ds.Pairwise (· < ·)) :
    (insertElement c ds).Pairwise (· < ·) := by
  induction ds with
  | nil => simp [insertElement]
  | cons d ds ih =>
    have ⟨hd, hds⟩ := List.pairwise_cons.1 h
    unfold insertElement
    split
    · next hlt =>
      refine List.pairwise_cons.2 ⟨fun x hx => ?_, h⟩
      rcases List.mem_cons.1 hx with rfl | hx
      · exact hlt
      · exact String.lt_trans hlt (hd x hx)
    · split
      · exact h
      · next hlt hne =>
        refine List.pairwise_cons.2 ⟨fun x hx => ?_, ih hds⟩
        rcases mem_insertElement.1 hx with rfl | hx
        · exact Std.not_le.1 fun hle => hlt (Std.lt_of_le_of_ne hle hne)
        · exact hd x hx

/-- A set with one more text. -/
def insert (c : String) (s : CidrSet) : CidrSet :=
  ⟨insertElement c s.elements, ascending_insertElement s.ascending⟩

@[simp] theorem mem_insert {c x : String} {s : CidrSet} : x ∈ s.insert c ↔ x = c ∨ x ∈ s :=
  mem_insertElement

/-- The set of the texts of a list. -/
def ofList (cs : List String) : CidrSet := cs.foldr insert empty

@[simp] theorem mem_ofList {x : String} {cs : List String} : x ∈ ofList cs ↔ x ∈ cs := by
  induction cs with
  | nil => simp [ofList, empty, mem_iff]
  | cons c cs ih =>
    have : x ∈ ofList (c :: cs) ↔ x ∈ (ofList cs).insert c := Iff.rfl
    simp [this, ih]

/-- The set of one text. -/
def singleton (c : String) : CidrSet := ⟨[c], by simp⟩

/-- The texts of either set. -/
def union (s t : CidrSet) : CidrSet := t.elements.foldr insert s

@[simp] theorem mem_union {x : String} {s t : CidrSet} : x ∈ s.union t ↔ x ∈ s ∨ x ∈ t := by
  have h (cs : List String) : x ∈ cs.foldr insert s ↔ x ∈ s ∨ x ∈ cs := by
    induction cs with
    | nil => simp
    | cons c cs ih => simp [ih, or_left_comm]
  exact h t.elements

/-- The texts of the first set that are not in the second. -/
def diff (s t : CidrSet) : CidrSet :=
  ⟨s.elements.filter fun c => !t.elements.contains c, s.ascending.filter _⟩

@[simp] theorem mem_diff {x : String} {s t : CidrSet} : x ∈ s.diff t ↔ x ∈ s ∧ x ∉ t := by
  simp [diff, mem_iff]

/-- Whether all texts of the first set are in the second. -/
def subset (s t : CidrSet) : Bool := s.elements.all fun c => t.elements.contains c

@[simp] theorem subset_iff {s t : CidrSet} : s.subset t = true ↔ ∀ c ∈ s, c ∈ t := by
  simp [subset, mem_iff]

/-- Whether a set has no elements. -/
def isEmpty (s : CidrSet) : Bool := s.elements.isEmpty

/-- The first text of a set that is in another. -/
def firstIn? (s t : CidrSet) : Option String := s.elements.find? fun c => t.elements.contains c

end CidrSet

end NodeSidecar
