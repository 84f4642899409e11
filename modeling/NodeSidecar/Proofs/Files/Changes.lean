/-
**Changes of a file tree that make up for each other.**

A file that is put where nothing was and erased again leaves no trace, and of two nodes put at one
place the second one counts.  The place of a name depends on the way to the directory only, which
changes in the directory leave alone.  With this the outcome of a step is known before it is made.

Main results:

* `FileTree.erase_of_absent`, `FileTree.erase_put_self`, `FileTree.put_put`, `FileTree.put_erase` —
  **changes at one place**;
* `FileTree.erase_comm` — changes at two places;
* `FileTree.place_eq_ok_iff`, `FileTree.place_congr` — when a name has a place, and when it keeps
  it;
* `FileStep.create_eq`, `write_eq`, `sync_eq`, `clear_eq`, `rename_eq` — steps that can be made.
-/

import NodeSidecar.Proofs.Files.Steps

set_option autoImplicit false

namespace NodeSidecar

namespace FileTree

variable {t t' : FileTree} {p q directory : List String} {name : String}

/-! ### Changes -/

theorem get?_put_self (t : FileTree) (p : List String) (node : FileNode) :
    (t.put p node).get? p = some node := by
  rw [get?_put, if_pos rfl]

/-- Nothing can be erased where nothing is. -/
theorem erase_of_absent (h : t.get? p = none) : t.erase p = t := by
  rw [get?, List.lookup_eq_none_iff] at h
  rw [erase, List.filter_eq_self.2 h]

/-- What was put and is erased again was not put. -/
@[simp] theorem erase_put_self (t : FileTree) (p : List String) (node : FileNode) :
    (t.put p node).erase p = t.erase p := by
  simp [put, erase]

/-- The last node counts. -/
@[simp] theorem put_put (t : FileTree) (p : List String) (node node' : FileNode) :
    (t.put p node).put p node' = t.put p node' := by
  rw [put, erase_put_self, put]

@[simp] theorem put_erase (t : FileTree) (p : List String) (node : FileNode) :
    (t.erase p).put p node = t.put p node := by
  simp [put, erase]

theorem erase_comm (t : FileTree) (p q : List String) :
    (t.erase p).erase q = (t.erase q).erase p := by
  simp [erase, Bool.and_comm]

/-! ### Places -/

/-- **A name has a place** if it can be a name, in a directory that can be entered. -/
theorem place_eq_ok_iff : t.place directory name = .ok p ↔
    (Char.ofNat 0 ∉ name.toList ∧ t.enter directory = .ok () ∧ name.utf8ByteSize ≤ longestName) ∧
      p = directory ++ [name] := by
  by_cases hnul : Char.ofNat 0 ∈ name.toList
  · rw [place, String.contains_char_eq, if_pos (decide_eq_true hnul)]
    exact iff_of_false (by rintro ⟨⟩) fun h => h.1.1 hnul
  · rw [place, String.contains_char_eq, if_neg (by simpa using hnul)]
    cases henter : t.enter directory with
    | error e => exact iff_of_false (by rintro ⟨⟩) fun h => by cases h.1.2.1
    | ok u =>
        by_cases hlong : longestName < name.utf8ByteSize
        · simp only [if_pos hlong]
          exact iff_of_false (by rintro ⟨⟩) fun h => Nat.not_lt.2 h.1.2.2 hlong
        · simp only [if_neg hlong]
          refine ⟨fun h => ?_, fun h => ?_⟩
          · exact ⟨⟨hnul, trivial, Nat.not_lt.1 hlong⟩, (Except.ok.inj h).symm⟩
          · rw [h.2]
            rfl

/-- Names are followed in the same way where the way is the same. -/
theorem follow_congr {reached names : List String}
    (h : ∀ r, r.length ≤ reached.length + names.length → t'.get? r = t.get? r) :
    t'.follow reached names = t.follow reached names := by
  induction names generalizing reached with
  | nil => rw [follow, follow, h reached (Nat.le_add_right _ _)]
  | cons name rest ih =>
      have hrest : ∀ r, r.length ≤ (reached ++ [name]).length + rest.length →
          t'.get? r = t.get? r := fun r hr => h r (by simp at hr ⊢; omega)
      rw [follow, follow, h reached (Nat.le_add_right _ _), ih hrest]

/-- **A name keeps its place** when the way to its directory stays. -/
theorem place_congr (h : ∀ r, r.length ≤ directory.length → t'.get? r = t.get? r) (name : String) :
    t'.place directory name = t.place directory name := by
  have hfollow : t'.enter directory = t.enter directory := follow_congr (by simpa using h)
  rw [place, place, hfollow]

theorem ne_of_length_le {r : List String} (h : r.length ≤ directory.length) (name : String) :
    r ≠ directory ++ [name] := by
  rintro rfl
  rw [List.length_append] at h
  exact Nat.not_succ_le_self _ h

@[simp] theorem place_put (t : FileTree) (directory : List String) (other name : String)
    (node : FileNode) : (t.put (directory ++ [other]) node).place directory name =
      t.place directory name :=
  place_congr (fun r hr => by rw [get?_put, if_neg (ne_of_length_le hr other)]) name

@[simp] theorem place_erase (t : FileTree) (directory : List String) (other name : String) :
    (t.erase (directory ++ [other])).place directory name = t.place directory name :=
  place_congr (fun r hr => by rw [get?_erase, if_neg (ne_of_length_le hr other)]) name

end FileTree

/-! ### Steps -/

namespace FileStep

variable {directory p q : List String} {t t' : FileTree} {name newName : String}
  {bytes old : List UInt8}

theorem run_cons_of_ok {s : FileStep} (h : s.apply directory t = .ok t') (rest : List FileStep) :
    run directory (s :: rest) t = run directory rest t' := by
  rw [run, h]

theorem run_cons_of_error {s : FileStep} {e : FileError} (h : s.apply directory t = .error e)
    (rest : List FileStep) : run directory (s :: rest) t = (.error e, t) := by
  rw [run, h]

theorem create_eq (hp : t.place directory name = .ok p) :
    (create name).apply directory t =
      if (t.get? p).isSome then .error .alreadyExists else .ok (t.put p (.file [])) := by
  simp only [apply, hp, bind, Except.bind]
  split <;> rfl

theorem write_eq (hp : t.place directory name = .ok p) (hfile : t.get? p = some (.file old))
    (bytes : List UInt8) : (write name bytes).apply directory t = .ok (t.put p (.file bytes)) := by
  simp only [apply, hp, fileAt, hfile, bind, Except.bind]
  rfl

theorem sync_eq (hp : t.place directory name = .ok p) (hfile : t.get? p = some (.file old)) :
    (sync name).apply directory t = .ok t := by
  simp only [apply, hp, fileAt, hfile, bind, Except.bind]
  rfl

theorem clear_eq (hp : t.place directory name = .ok p) :
    (clear name).apply directory t =
      if t.get? p = some .directory then .error .isDirectory else .ok (t.erase p) := by
  simp only [apply, hp, bind, Except.bind]
  cases hget : t.get? p with
  | none => rw [FileTree.erase_of_absent hget]; rfl
  | some node => cases node <;> rfl

theorem rename_eq (hp : t.place directory name = .ok p) (hq : t.place directory newName = .ok q)
    (hfile : t.get? p = some (.file bytes)) (hplace : t.get? q ≠ some .directory) :
    (rename name newName).apply directory t = .ok ((t.erase p).put q (.file bytes)) := by
  simp only [apply, hp, hq, fileAt, hfile, hplace, bind, Except.bind, if_false]
  rfl

end FileStep

end NodeSidecar
