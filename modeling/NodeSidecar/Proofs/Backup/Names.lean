/-
**The names of manifests.**

A unit has a stem, which is its identifier or, if it has none, that of the incremental manifest.  An
identifier that is accepted is one step of a path, so the file of a unit is in the directory of the
materializer.  Units with different stems have different files, but the identifier that is the stem
of the incremental manifest is accepted too.

The temporary file is named by a token as well; a name that is longer than that of the manifest is
never the name of the manifest, and among as many numbers as there are files and one more, one gives
a token that is not in use.

Main definitions:

* `Manifest.stemOf` — the stem of a unit, accepted or not;
* `Manifest.Namesakes` — two units with one stem.

Main results:

* `Manifest.stem_eq_ok_iff` — when a unit is accepted, and its stem;
* `Manifest.within_fileName` — **the file of an accepted unit is in the directory**;
* `Manifest.stemOf_eq_iff` — **only namesakes share a stem**;
* `Manifest.fileName_ne_temporaryName`, `Manifest.place_fileName` — a manifest and its temporary
  file;
* `Manifest.get?_unusedToken` — **the token that is chosen is not in use**.
-/

import Mathlib.Data.List.Nodup
import Mathlib.Data.List.Perm.Subperm
import NodeSidecar.Backup.Manifest
import NodeSidecar.Proofs.Files.Changes

set_option autoImplicit false

namespace NodeSidecar

/-! ### Numerals -/

namespace Text

/-- Leading zeros do not count. -/
theorem ofDigitChars_padded (width n : Nat) :
    Nat.ofDigitChars 10 (padded width n).toList 0 = n := by
  rw [padded, String.toList_ofList, Nat.ofDigitChars_append, Nat.ofDigitChars_replicate_zero,
    Nat.mul_zero, digits, Nat.ofDigitChars_ten_toDigits]

theorem padded_injective (width : Nat) : Function.Injective (padded width) := fun a b h => by
  rw [← ofDigitChars_padded width a, h, ofDigitChars_padded]

theorem padded_ne_empty (width n : Nat) : padded width n ≠ "" := by
  rw [padded, ← String.toList_inj.ne, String.toList_ofList]
  exact List.append_ne_nil_of_right_ne_nil _ Nat.toDigits_ne_nil

end Text

namespace Manifest

variable {identifier : String} {identifier? : Option String} {stem token : String}

/-! ### Stems -/

/-- The stem of a unit, whether or not it is accepted. -/
def stemOf (identifier? : Option String) : String := identifier?.getD incrementalStem

/-- **Two units with one stem**: the unit without an identifier, and the one with its stem. -/
def Namesakes : Option String → Option String → Prop
  | none, some identifier | some identifier, none => identifier = incrementalStem
  | _, _ => False

/-- Only namesakes share a stem. -/
theorem stemOf_eq_iff {u v : Option String} : stemOf u = stemOf v ↔ u = v ∨ Namesakes u v := by
  cases u <;> cases v <;> simp [stemOf, Namesakes, eq_comm]

theorem isPlain_iff : isPlain identifier = true ↔
    identifier ∉ ["", ".", ".."] ∧ '/' ∉ identifier.toList ∧ '\\' ∉ identifier.toList := by
  simp only [isPlain, Bool.and_eq_true, bne_iff_ne, Bool.not_eq_true', List.any_eq_false,
    Bool.or_eq_true, beq_iff_eq, List.mem_cons, List.not_mem_nil, or_false, not_or, and_assoc]
  refine and_congr_right' (and_congr_right' (and_congr_right'
    ⟨fun h => ⟨fun hmem => ?_, fun hmem => ?_⟩, ?_⟩))
  · exact (h _ hmem).1 rfl
  · exact (h _ hmem).2 rfl
  · rintro ⟨hslash, hback⟩ c hc
    exact ⟨fun heq => hslash (heq ▸ hc), fun heq => hback (heq ▸ hc)⟩

/-- **A unit is accepted** if it has no identifier, or one that is one step of a path. -/
theorem stem_eq_ok_iff : Manifest.stem identifier? = .ok stem ↔
    (∀ identifier, identifier? = some identifier → isPlain identifier = true) ∧
      stem = stemOf identifier? := by
  cases identifier? with
  | none =>
      refine ⟨fun h => ⟨by rintro _ ⟨⟩, (Except.ok.inj h).symm⟩, fun h => ?_⟩
      rw [h.2]
      rfl
  | some identifier =>
      rw [Manifest.stem]
      by_cases hplain : isPlain identifier = true
      · rw [if_pos hplain, Except.ok.injEq, eq_comm]
        exact (and_iff_right fun _ hid => Option.some.inj hid ▸ hplain).symm
      · rw [if_neg hplain]
        exact iff_of_false (by rintro ⟨⟩) fun h => hplain (h.1 identifier rfl)

/-- A unit that is not accepted has an identifier, which the failure names. -/
theorem stem_eq_error {e : ManifestError} (h : Manifest.stem identifier? = .error e) :
    ∃ identifier, identifier? = some identifier ∧ isPlain identifier = false ∧
      e = .invalidIdentifier identifier := by
  cases identifier? with
  | none => cases h
  | some identifier =>
      rw [Manifest.stem] at h
      split at h
      · cases h
      · next hplain => exact ⟨identifier, rfl, by simpa using hplain, (Except.error.inj h).symm⟩

/-! ### File names -/

theorem fileName_inj {stem stem' : String} : fileName stem = fileName stem' ↔ stem = stem' :=
  String.append_left_inj ".json"

theorem five_le_length_fileName (stem : String) : 5 ≤ (fileName stem).length := by
  rw [fileName, String.length_append]
  exact Nat.le_add_left 5 _

/-- A file name is one step of a path. -/
theorem step_fileName (way : List String) (stem : String) :
    FilePath.step way (fileName stem) = way ++ [fileName stem] := by
  have hlength := five_le_length_fileName stem
  have hne : ∀ s : String, s.length < 5 → fileName stem ≠ s := by
    rintro s hs rfl
    omega
  rw [FilePath.step, if_neg (not_or.2 ⟨hne "" (by decide), hne "." (by decide)⟩),
    if_neg (hne ".." (by decide))]

/-- **The file of an accepted unit is in the directory.** -/
theorem within_fileName (directory : FilePath) (h : Manifest.stem identifier? = .ok stem) :
    directory.within (fileName stem) = directory.child (fileName stem) := by
  refine FilePath.within_of_plain directory ?_ (step_fileName _ stem)
  obtain ⟨hplain, rfl⟩ := stem_eq_ok_iff.1 h
  have hstem : '/' ∉ (stemOf identifier?).toList := by
    cases identifier? with
    | none => decide
    | some identifier => exact (isPlain_iff.1 (hplain identifier rfl)).2.1
  rw [fileName, String.toList_append, List.mem_append, not_or]
  exact ⟨hstem, by decide⟩

/-! ### Temporary files -/

theorem length_temporaryName (stem token : String) :
    (temporaryName stem token).length = (fileName stem).length + token.length := by
  simp only [temporaryName, fileName, String.length_append]
  omega

/-- A manifest is not its temporary file. -/
theorem fileName_ne_temporaryName (stem : String) (h : token ≠ "") :
    fileName stem ≠ temporaryName stem token := by
  intro heq
  have hlength := length_temporaryName stem token
  rw [← heq] at hlength
  exact h (String.length_eq_zero_iff.1 (by omega))

theorem temporaryName_inj {token' : String} :
    temporaryName stem token = temporaryName stem token' ↔ token = token' := by
  rw [temporaryName, temporaryName, String.append_left_inj, String.append_right_inj]

/-- Where the temporary file has a place, the manifest has one. -/
theorem place_fileName {t : FileTree} {directory p : List String}
    (h : t.place directory (temporaryName stem token) = .ok p) :
    t.place directory (fileName stem) = .ok (directory ++ [fileName stem]) := by
  obtain ⟨⟨hnul, henter, hshort⟩, -⟩ := FileTree.place_eq_ok_iff.1 h
  refine FileTree.place_eq_ok_iff.2 ⟨⟨fun hmem => hnul ?_, henter, Nat.le_trans ?_ hshort⟩, rfl⟩
  · simp only [fileName, temporaryName, String.toList_append, List.mem_append] at hmem ⊢
    exact hmem.imp_left Or.inl
  · simp only [fileName, temporaryName, String.utf8ByteSize_append]
    omega

/-- **The token that is chosen is not in use**: there are more numbers to choose from than files. -/
theorem get?_unusedToken (t : FileTree) (directory : List String) (stem : String) :
    t.get? (directory ++ [temporaryName stem (unusedToken t directory stem)]) = none := by
  let place (n : Nat) : List String := directory ++ [temporaryName stem (Text.padded 6 n)]
  have hinjective : Function.Injective place := fun a b h => by
    have hname := List.append_cancel_left h
    rw [List.singleton_inj, temporaryName_inj] at hname
    exact Text.padded_injective 6 hname
  rw [unusedToken]
  cases hfind : (List.range (t.entries.length + 1)).find? fun n => (t.get? (place n)).isNone with
  | some n =>
      have hunused := List.find?_some hfind
      exact Option.isNone_iff_eq_none.1 hunused
  | none =>
      -- the names of all these numbers would be files, each of them another one
      have hused : (List.range (t.entries.length + 1)).map place ⊆ t.entries.map Prod.fst := by
        intro p hp
        obtain ⟨n, hn, rfl⟩ := List.mem_map.1 hp
        have hsome := List.find?_eq_none.1 hfind n hn
        rw [Bool.not_eq_true, Option.isNone_eq_false_iff, FileTree.get?, List.lookup_isSome_iff]
          at hsome
        obtain ⟨e, he, heq⟩ := hsome
        exact List.mem_map.2 ⟨e, he, (beq_iff_eq.1 heq).symm⟩
      have hle := ((List.nodup_range.map hinjective).subperm hused).length_le
      rw [List.length_map, List.length_map, List.length_range] at hle
      exact absurd hle (Nat.not_succ_le_self _)

end Manifest

end NodeSidecar
