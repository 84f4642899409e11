/-
**What steps do to a file tree.**

A step means one or two names of a directory and leaves everything else alone; in particular it
leaves the way to the directory alone, so that the places of the directory's files stay where they
are while steps are made.

Main definitions:

* `FileStep.names` — the names that a step means;
* `FileStep.Torn` — what a step leaves behind that does not come to its end.

Main results:

* `FileStep.create_ok`, `write_ok`, `sync_ok`, `clear_ok`, `rename_ok` — the effect of each step;
* `FileStep.apply_frame`, `FileStep.run_frame` — **names that are not meant lead to what they led
  to before**, after one step and after several;
* `FileStep.run_concat`, `FileStep.run_error` — a run up to its last step, and up to a failure.
-/

import NodeSidecar.Files.Tree

set_option autoImplicit false

namespace NodeSidecar

namespace FileTree

variable {t : FileTree} {directory p : List String} {name : String}

/-- A name that has a place is placed in the directory. -/
theorem place_ok (h : t.place directory name = .ok p) : p = directory ++ [name] := by
  by_cases hnul : name.contains (Char.ofNat 0) = true
  · rw [place, if_pos hnul] at h
    cases h
  · rw [place, if_neg hnul] at h
    cases henter : t.enter directory with
    | error e =>
        simp only [henter] at h
        cases h
    | ok u =>
        by_cases hlong : longestName < name.utf8ByteSize
        · simp only [henter, if_pos hlong] at h
          cases h
        · simp only [henter, if_neg hlong] at h
          exact (Except.ok.inj h).symm

end FileTree

namespace FileStep

variable {directory : List String} {t t' : FileTree} {name newName : String} {bytes : List UInt8}

/-! ### The effect of each step -/

/-- A file at a place is what the place leads to. -/
theorem fileAt_ok {p : List String} (h : fileAt t p = .ok bytes) :
    t.get? p = some (.file bytes) := by
  unfold fileAt at h
  split at h
  · cases h
  · cases h
  · next heq =>
    rw [heq, Except.ok.inj h]

theorem create_ok (h : (create name).apply directory t = .ok t') :
    t.get? (directory ++ [name]) = none ∧ t' = t.put (directory ++ [name]) (.file []) := by
  simp only [apply, bind, Except.bind] at h
  split at h
  · cases h
  · next p hp =>
    obtain rfl := FileTree.place_ok hp
    split at h
    · cases h
    · next hnone =>
      exact ⟨by simpa using hnone, (Except.ok.inj h).symm⟩

theorem write_ok (h : (write name bytes).apply directory t = .ok t') :
    t' = t.put (directory ++ [name]) (.file bytes) := by
  simp only [apply, bind, Except.bind] at h
  split at h
  · cases h
  · next p hp =>
    obtain rfl := FileTree.place_ok hp
    split at h
    · cases h
    · exact (Except.ok.inj h).symm

theorem sync_ok (h : (sync name).apply directory t = .ok t') : t' = t := by
  simp only [apply, bind, Except.bind] at h
  split at h
  · cases h
  · split at h
    · cases h
    · exact (Except.ok.inj h).symm

theorem clear_ok (h : (clear name).apply directory t = .ok t') :
    t'.get? (directory ++ [name]) = none ∧
      ∀ q, q ≠ directory ++ [name] → t'.get? q = t.get? q := by
  simp only [apply, bind, Except.bind] at h
  split at h
  · cases h
  · next p hp =>
    obtain rfl := FileTree.place_ok hp
    split at h
    · next hnone =>
      obtain rfl := Except.ok.inj h
      exact ⟨hnone, fun q _ => rfl⟩
    · cases h
    · obtain rfl := Except.ok.inj h
      refine ⟨by simp, fun q hq => ?_⟩
      rw [FileTree.get?_erase, if_neg hq]

theorem rename_ok (h : (rename name newName).apply directory t = .ok t') :
    ∃ bytes, t.get? (directory ++ [name]) = some (.file bytes) ∧
      t' = (t.erase (directory ++ [name])).put (directory ++ [newName]) (.file bytes) := by
  simp only [apply, bind, Except.bind] at h
  split at h
  · cases h
  · next p hp =>
    obtain rfl := FileTree.place_ok hp
    split at h
    · cases h
    · next q hq =>
      obtain rfl := FileTree.place_ok hq
      split at h
      · cases h
      · next bytes hbytes =>
        split at h
        · cases h
        · exact ⟨bytes, fileAt_ok hbytes, (Except.ok.inj h).symm⟩

/-! ### What steps leave alone -/

/-- The names that a step means. -/
def names : FileStep → List String
  | create name => [name]
  | write name _ => [name]
  | sync _ => []
  | clear name => [name]
  | rename name newName => [name, newName]

/-- **The frame of a step**: names that it does not mean lead to what they led to before. -/
theorem apply_frame {s : FileStep} (h : s.apply directory t = .ok t') {q : List String}
    (hq : ∀ name ∈ s.names, q ≠ directory ++ [name]) : t'.get? q = t.get? q := by
  cases s with
  | create name =>
      obtain ⟨_, rfl⟩ := create_ok h
      rw [FileTree.get?_put, if_neg (hq name (by simp [names]))]
  | write name bytes =>
      obtain rfl := write_ok h
      rw [FileTree.get?_put, if_neg (hq name (by simp [names]))]
  | sync name =>
      rw [sync_ok h]
  | clear name =>
      exact (clear_ok h).2 q (hq name (by simp [names]))
  | rename name newName =>
      obtain ⟨bytes, _, rfl⟩ := rename_ok h
      rw [FileTree.get?_put, if_neg (hq newName (by simp [names])), FileTree.get?_erase,
        if_neg (hq name (by simp [names]))]

/-! ### Steps one after another -/

/-- A run that succeeds with one more step than another. -/
theorem run_concat (steps : List FileStep) {s : FileStep} {t'' : FileTree}
    (h : run directory (steps ++ [s]) t = (.ok (), t'')) :
    ∃ t', run directory steps t = (.ok (), t') ∧ s.apply directory t' = .ok t'' := by
  induction steps generalizing t with
  | nil =>
      refine ⟨t, rfl, ?_⟩
      rw [List.nil_append, run] at h
      split at h
      · cases h
      · next heq =>
        rw [heq, (Prod.mk.inj h).2]
  | cons s' steps ih =>
      rw [List.cons_append, run] at h
      rw [run]
      split at h
      · cases h
      · exact ih h

/-- **The frame of several steps.** -/
theorem run_frame {steps : List FileStep} (h : run directory steps t = (.ok (), t'))
    {q : List String} (hq : ∀ s ∈ steps, ∀ name ∈ s.names, q ≠ directory ++ [name]) :
    t'.get? q = t.get? q := by
  induction steps generalizing t with
  | nil => rw [← (Prod.mk.inj h).2]
  | cons s steps ih =>
      rw [run] at h
      split at h
      · cases h
      · next t₁ happly =>
        calc t'.get? q = t₁.get? q := ih h fun s' hs' => hq s' (List.mem_cons_of_mem _ hs')
          _ = t.get? q := apply_frame happly (hq s List.mem_cons_self)

/-- A run that fails has made some steps and comes to one that cannot be made. -/
theorem run_error {steps : List FileStep} {e : FileError}
    (h : run directory steps t = (.error e, t')) :
    ∃ done s rest, steps = done ++ s :: rest ∧ run directory done t = (.ok (), t') ∧
      s.apply directory t' = .error e := by
  induction steps generalizing t with
  | nil => cases h
  | cons s steps ih =>
      rw [run] at h
      split at h
      · next e' happly =>
        obtain ⟨he, rfl⟩ := Prod.mk.inj h
        exact ⟨[], s, steps, rfl, rfl, by rw [happly, Except.error.inj he]⟩
      · next t₁ happly =>
        obtain ⟨done, s', rest, rfl, hdone, herror⟩ := ih h
        refine ⟨s :: done, s', rest, rfl, ?_, herror⟩
        rw [run, happly]
        exact hdone

/-! ### Steps that are not finished -/

/-- **What a step leaves behind that does not come to its end**: the tree as it was, or a file that
is filled in part.  All steps but the filling of a file are made at once. -/
inductive Torn (directory : List String) (t : FileTree) : FileStep → FileTree → Prop
  | unmade (s : FileStep) : Torn directory t s t
  | part {name : String} {bytes part : List UInt8} (h : part <+: bytes) :
      Torn directory t (write name bytes) (t.put (directory ++ [name]) (.file part))

end FileStep

end NodeSidecar
