/-
**A manifest while it is replaced.**

A manifest is written to a temporary file, which is then renamed to its place.  A reader may look
at the place at any moment, and the writer may be stopped at any moment, or a step may fail.  The
temporary file keeps a manifest that is written in part away from the reader; but the manifest that
was there is removed before the new one gets its name, and between these two steps the reader finds
nothing.

Main definitions:

* `Manifest.operations` — all steps of writing a manifest;
* `Manifest.Visible` — a tree that a reader may find, and the steps made until then;
* `Manifest.Gap` — the moments between the removal and the renaming.

Main results:

* `Manifest.run_operations` — the place of the manifest after each step;
* `Materializer.replace_visible` — what a call leaves behind is visible;
* `old_or_new_outside_gap` — **a reader finds the old manifest or the new one exactly outside the
  gap**, which every call that succeeds goes through;
* `manifest_goes_missing` — a manifest that is there before and is missing in the gap.
-/

import Mathlib
import NodeSidecar.Backup.Manifest
import NodeSidecar.Proofs.Files.Steps

set_option autoImplicit false

namespace NodeSidecar

/-! ### The moments of a replacement -/

namespace Manifest

/-- The steps of writing a manifest, from the temporary file on. -/
def operations (temporary name : String) (body : List UInt8) : List FileStep :=
  .create temporary :: steps temporary name body

/-- **The gap**: the manifest that was there is removed, and the new one has not got its name. -/
def Gap (temporary name : String) (done : List FileStep) : Prop :=
  .clear name ∈ done ∧ .rename temporary name ∉ done

/-- **What a reader may find** while a manifest is written, and the steps made until then: the tree
between two steps, what is left of a step that is not finished, and the same when the temporary
file, once it is made, has been dropped because of that. -/
inductive Visible (directory : List String) (temporary name : String) (body : List UInt8)
    (t₀ : FileTree) : List FileStep → FileTree → Prop
  | between {done : List FileStep} {t : FileTree}
      (made : done <+: operations temporary name body)
      (ran : FileStep.run directory done t₀ = (.ok (), t)) :
      Visible directory temporary name body t₀ done t
  | torn {done : List FileStep} {s : FileStep} {t t' : FileTree}
      (made : done ++ [s] <+: operations temporary name body)
      (ran : FileStep.run directory done t₀ = (.ok (), t)) (left : s.Torn directory t t') :
      Visible directory temporary name body t₀ done t'
  | dropped {done : List FileStep} {s : FileStep} {t t' : FileTree} (created : done ≠ [])
      (made : done ++ [s] <+: operations temporary name body)
      (ran : FileStep.run directory done t₀ = (.ok (), t)) (left : s.Torn directory t t') :
      Visible directory temporary name body t₀ done (t'.erase (directory ++ [temporary]))

variable {temporary name : String} {body : List UInt8} {done : List FileStep}

/-- The steps made are none, or all up to one of the five. -/
theorem prefix_operations (h : done <+: operations temporary name body) :
    done = [] ∨ done = [.create temporary] ∨ done = [.create temporary, .write temporary body] ∨
      done = [.create temporary, .write temporary body, .sync temporary] ∨
      done = [.create temporary, .write temporary body, .sync temporary, .clear name] ∨
      done = operations temporary name body := by
  simpa [operations, steps] using (List.mem_inits done _).2 h

/-- Before the clearing only the temporary file was made. -/
theorem prefix_before_clear (h : done <+: operations temporary name body)
    (hclear : .clear name ∉ done) :
    done <+: [.create temporary, .write temporary body, .sync temporary] := by
  rcases prefix_operations h with rfl | rfl | rfl | rfl | rfl | rfl
  · exact List.nil_prefix
  · exact ⟨_, rfl⟩
  · exact ⟨_, rfl⟩
  · exact List.prefix_refl _
  · simp at hclear
  · simp [operations, steps] at hclear

/-- In the gap all steps but the last one are made. -/
theorem eq_of_gap (h : done <+: operations temporary name body) (hgap : Gap temporary name done) :
    done = [.create temporary, .write temporary body, .sync temporary, .clear name] := by
  obtain ⟨hclear, hrename⟩ := hgap
  rcases prefix_operations h with rfl | rfl | rfl | rfl | rfl | rfl
  · simp at hclear
  · simp at hclear
  · simp at hclear
  · simp at hclear
  · rfl
  · simp [operations, steps] at hrename

/-- After the renaming all steps are made. -/
theorem eq_of_renamed (h : done <+: operations temporary name body)
    (hrename : .rename temporary name ∈ done) : done = operations temporary name body := by
  rcases prefix_operations h with rfl | rfl | rfl | rfl | rfl | rfl
  · simp at hrename
  · simp at hrename
  · simp at hrename
  · simp at hrename
  · simp at hrename
  · rfl

/-! ### The place of the manifest -/

section Place

variable {directory : List String} {old : List UInt8} {t₀ t : FileTree}

/-- Once the temporary file was made next to a manifest, it is another file. -/
theorem temporary_ne (hdone : done ≠ []) (hmade : done <+: operations temporary name body)
    (hrun : FileStep.run directory done t₀ = (.ok (), t))
    (hold : t₀.get? (directory ++ [name]) = some (.file old)) :
    directory ++ [name] ≠ directory ++ [temporary] := by
  obtain ⟨rest, rfl⟩ : ∃ rest, done = .create temporary :: rest := by
    obtain ⟨rest, hrest⟩ := hmade
    cases done with
    | nil => exact absurd rfl hdone
    | cons s done => exact ⟨done, by rw [(List.cons.inj hrest).1]⟩
  rw [FileStep.run] at hrun
  split at hrun
  · cases hrun
  · next t₁ happly =>
    intro heq
    rw [heq, (FileStep.create_ok happly).1] at hold
    cases hold

/-- Until it is cleared, the place has the manifest that was there. -/
theorem run_before_clear (hmade : done <+: operations temporary name body)
    (hrun : FileStep.run directory done t₀ = (.ok (), t))
    (hold : t₀.get? (directory ++ [name]) = some (.file old)) (hclear : .clear name ∉ done) :
    t.get? (directory ++ [name]) = some (.file old) := by
  rw [← hold]
  refine FileStep.run_frame hrun fun s hs n hn => ?_
  have htemporary : n = temporary := by
    have hmem := (prefix_before_clear hmade hclear).subset hs
    simp only [List.mem_cons, List.not_mem_nil, or_false] at hmem
    rcases hmem with rfl | rfl | rfl
    · exact List.mem_singleton.1 hn
    · exact List.mem_singleton.1 hn
    · cases hn
  rw [htemporary]
  exact temporary_ne (List.ne_nil_of_mem hs) hmade hrun hold

/-- In the gap the place is empty. -/
theorem run_gap (hmade : done <+: operations temporary name body)
    (hrun : FileStep.run directory done t₀ = (.ok (), t)) (hgap : Gap temporary name done) :
    t.get? (directory ++ [name]) = none := by
  rw [eq_of_gap hmade hgap] at hrun
  obtain ⟨t', _, happly⟩ := FileStep.run_concat
    [.create temporary, .write temporary body, .sync temporary] hrun
  exact (FileStep.clear_ok happly).1

/-- After the renaming the place has the new manifest. -/
theorem run_renamed (hmade : done <+: operations temporary name body)
    (hrun : FileStep.run directory done t₀ = (.ok (), t))
    (hold : t₀.get? (directory ++ [name]) = some (.file old))
    (hrename : .rename temporary name ∈ done) :
    t.get? (directory ++ [name]) = some (.file body) := by
  have hne := temporary_ne (List.ne_nil_of_mem hrename) hmade hrun hold
  rw [eq_of_renamed hmade hrename] at hrun
  obtain ⟨t₄, hrun₄, happly₅⟩ := FileStep.run_concat
    [.create temporary, .write temporary body, .sync temporary, .clear name] hrun
  obtain ⟨t₃, hrun₃, happly₄⟩ := FileStep.run_concat
    [.create temporary, .write temporary body, .sync temporary] hrun₄
  obtain ⟨t₂, hrun₂, happly₃⟩ := FileStep.run_concat
    [.create temporary, .write temporary body] hrun₃
  obtain ⟨t₁, _, happly₂⟩ := FileStep.run_concat [.create temporary] hrun₂
  -- the temporary file has the new manifest from its filling on
  have hfilled : t₄.get? (directory ++ [temporary]) = some (.file body) := by
    rw [(FileStep.clear_ok happly₄).2 _ hne.symm, FileStep.sync_ok happly₃,
      FileStep.write_ok happly₂]
    simp
  obtain ⟨bytes, hbytes, rfl⟩ := FileStep.rename_ok happly₅
  obtain rfl : body = bytes := by simpa [hfilled] using hbytes
  simp

/-- **The place of the manifest after the steps made**: the old manifest until it is cleared, then
nothing, and the new manifest once that is renamed. -/
theorem run_operations (hmade : done <+: operations temporary name body)
    (hrun : FileStep.run directory done t₀ = (.ok (), t))
    (hold : t₀.get? (directory ++ [name]) = some (.file old)) :
    t.get? (directory ++ [name]) = some (.file old) ∧ .clear name ∉ done ∨
      t.get? (directory ++ [name]) = none ∧ Gap temporary name done ∨
      t.get? (directory ++ [name]) = some (.file body) ∧ .rename temporary name ∈ done := by
  by_cases hclear : .clear name ∈ done
  · by_cases hrename : .rename temporary name ∈ done
    · exact Or.inr (Or.inr ⟨run_renamed hmade hrun hold hrename, hrename⟩)
    · exact Or.inr (Or.inl ⟨run_gap hmade hrun ⟨hclear, hrename⟩, hclear, hrename⟩)
  · exact Or.inl ⟨run_before_clear hmade hrun hold hclear, hclear⟩

/-- A step that is not finished leaves the place of the manifest alone: only the temporary file is
filled. -/
theorem left_frame {s : FileStep} (hmade : done ++ [s] <+: operations temporary name body)
    (hrun : FileStep.run directory done t₀ = (.ok (), t))
    (hold : t₀.get? (directory ++ [name]) = some (.file old)) {t' : FileTree}
    (hleft : s.Torn directory t t') :
    t'.get? (directory ++ [name]) = t.get? (directory ++ [name]) := by
  cases hleft with
  | unmade => rfl
  | @part n bytes part _ =>
      have hmem : FileStep.write n bytes ∈ operations temporary name body :=
        hmade.subset (List.mem_append_right _ List.mem_cons_self)
      simp only [operations, steps, List.mem_cons, List.not_mem_nil, or_false, reduceCtorEq,
        FileStep.write.injEq, false_or] at hmem
      obtain ⟨rfl, rfl⟩ := hmem
      have hdone : done ≠ [] := by
        rintro rfl
        simp [operations] at hmade
      have hne := temporary_ne hdone ((List.prefix_append _ _).trans hmade) hrun hold
      rw [FileTree.get?_put, if_neg hne]

/-- **What a reader finds at the place of the manifest** is what the steps made have left there. -/
theorem Visible.exists_run (h : Visible directory temporary name body t₀ done t)
    (hold : t₀.get? (directory ++ [name]) = some (.file old)) :
    ∃ t', done <+: operations temporary name body ∧
      FileStep.run directory done t₀ = (.ok (), t') ∧
      t.get? (directory ++ [name]) = t'.get? (directory ++ [name]) := by
  cases h with
  | between hmade hrun => exact ⟨t, hmade, hrun, rfl⟩
  | torn hmade hrun hleft =>
      exact ⟨_, (List.prefix_append _ _).trans hmade, hrun, left_frame hmade hrun hold hleft⟩
  | dropped hdone hmade hrun hleft =>
      have hmade' := (List.prefix_append done _).trans hmade
      refine ⟨_, hmade', hrun, ?_⟩
      rw [FileTree.get?_erase, if_neg (temporary_ne hdone hmade' hrun hold)]
      exact left_frame hmade hrun hold hleft

end Place

end Manifest

/-! ### Calls -/

namespace Materializer

variable {m : Materializer} {token stem : String} {body : List UInt8} {t₀ t : FileTree}

/-- A call that succeeds has made all steps. -/
theorem run_of_replace_ok {path : FilePath}
    (h : m.replace token stem body t₀ = (.ok path, t)) :
    FileStep.run m.directory.names (Manifest.operations (Manifest.temporaryName stem token)
      (Manifest.fileName stem) body) t₀ = (.ok (), t) := by
  rw [Manifest.operations, FileStep.run]
  cases happly : (FileStep.create (Manifest.temporaryName stem token)).apply m.directory.names
      t₀ with
  | error e =>
      simp only [replace, happly] at h
      cases (Prod.mk.inj h).1
  | ok t₁ =>
      simp only [replace, happly] at h
      split at h
      · cases (Prod.mk.inj h).1
      · next t₂ hrun =>
        rw [← (Prod.mk.inj h).2]
        exact hrun

/-- A call that fails has made some steps, and has dropped the temporary file if it was made. -/
theorem visible_of_replace_error {e : ManifestError}
    (h : m.replace token stem body t₀ = (.error e, t)) :
    ∃ done, Manifest.Visible m.directory.names (Manifest.temporaryName stem token)
      (Manifest.fileName stem) body t₀ done t := by
  simp only [replace] at h
  split at h
  · obtain rfl := (Prod.mk.inj h).2
    exact ⟨[], .between List.nil_prefix rfl⟩
  · next t₁ happly =>
    split at h
    · next t₂ hrun =>
      obtain ⟨done, s, rest, hsteps, hdone, _⟩ := FileStep.run_error hrun
      rw [← (Prod.mk.inj h).2]
      refine ⟨.create (Manifest.temporaryName stem token) :: done,
        .dropped (List.cons_ne_nil _ _) ⟨rest, ?_⟩ ?_ (.unmade s)⟩
      · rw [Manifest.operations, hsteps, List.cons_append, List.cons_append, List.append_assoc,
          List.singleton_append]
      · rw [FileStep.run, happly]
        exact hdone
    · cases (Prod.mk.inj h).1

variable (m token stem body t₀)

/-- **What a call leaves behind is visible**, whether it succeeds or fails. -/
theorem replace_visible :
    ∃ done, Manifest.Visible m.directory.names (Manifest.temporaryName stem token)
      (Manifest.fileName stem) body t₀ done (m.replace token stem body t₀).2 := by
  cases hreplace : m.replace token stem body t₀ with
  | mk result t =>
      cases result with
      | ok path => exact ⟨_, .between (List.prefix_refl _) (run_of_replace_ok hreplace)⟩
      | error e => exact visible_of_replace_error hreplace

end Materializer

/-- **When a reader finds the old manifest or the new one.**  Let a manifest be at the place of an
accepted identifier.  Then, whatever the temporary file and the new manifest are:

* at every moment of a call, after a stop or a failure at any of its steps as well, a reader finds
  the old or the new manifest as a whole if and only if the moment is not in the gap, and in the
  gap finds nothing;
* every call that succeeds goes through the gap. -/
theorem old_or_new_outside_gap (m : Materializer) {identifier? : Option String} {path : FilePath}
    (hpath : m.destination identifier? = .ok path) {t₀ : FileTree} {old : List UInt8}
    (hold : t₀.get? path.names = some (.file old)) :
    ∃ stem, Manifest.stem identifier? = .ok stem ∧ ∀ (token : String) (body : List UInt8),
      let temporary := Manifest.temporaryName stem token
      let name := Manifest.fileName stem
      (∀ done t, Manifest.Visible m.directory.names temporary name body t₀ done t →
        ((t.get? path.names = some (.file old) ∨ t.get? path.names = some (.file body)) ↔
          ¬ Manifest.Gap temporary name done) ∧
        (Manifest.Gap temporary name done → t.get? path.names = none)) ∧
      ((m.replace token stem body t₀).1 = .ok path →
        ∃ done t, Manifest.Visible m.directory.names temporary name body t₀ done t ∧
          Manifest.Gap temporary name done) := by
  cases hstem : Manifest.stem identifier? with
  | error e =>
      rw [Materializer.destination, hstem] at hpath
      cases hpath
  | ok stem =>
      obtain rfl : m.directory.child (Manifest.fileName stem) = path := by
        rw [Materializer.destination, hstem] at hpath
        exact Except.ok.inj hpath
      rw [FilePath.names_child] at hold
      refine ⟨stem, rfl, fun token body => ⟨fun done t hvisible => ?_, fun hok => ?_⟩⟩
      · obtain ⟨t', hmade, hrun, hplace⟩ := hvisible.exists_run hold
        rw [FilePath.names_child, hplace]
        rcases Manifest.run_operations hmade hrun hold with ⟨hget, hclear⟩ | ⟨hget, hgap⟩ |
          ⟨hget, hrename⟩
        · have hgap : ¬ Manifest.Gap (Manifest.temporaryName stem token)
              (Manifest.fileName stem) done := fun hgap => hclear hgap.1
          exact ⟨iff_of_true (Or.inl hget) hgap, fun h => absurd h hgap⟩
        · rw [hget]
          exact ⟨iff_of_false (by simp) (not_not.2 hgap), fun _ => rfl⟩
        · have hgap : ¬ Manifest.Gap (Manifest.temporaryName stem token)
              (Manifest.fileName stem) done := fun hgap => hgap.2 hrename
          exact ⟨iff_of_true (Or.inr hget) hgap, fun h => absurd h hgap⟩
      · have hrun := Materializer.run_of_replace_ok (Prod.ext hok rfl)
        obtain ⟨t, hbefore, _⟩ := FileStep.run_concat
          [.create _, .write _ body, .sync _, .clear _] hrun
        refine ⟨_, t, .between ⟨_, rfl⟩ hbefore, ?_⟩
        simp [Manifest.Gap]

/-- A directory with a manifest, which is replaced by the empty one. -/
theorem old_or_new_outside_gap_of_present :
    let m : Materializer := ⟨⟨"/b", ["/", "b"]⟩⟩
    let t₀ : FileTree := ⟨[([], .directory), (["/"], .directory), (["/", "b"], .directory),
      (["/", "b", "a.json"], .file [123, 125])]⟩
    let path : FilePath := m.directory.child "a.json"
    m.destination (some "a") = .ok path ∧ t₀.get? path.names = some (.file [123, 125]) ∧
      ∃ stem, Manifest.stem (some "a") = .ok stem ∧
        ∀ done t, Manifest.Visible m.directory.names (Manifest.temporaryName stem "000000")
          (Manifest.fileName stem) [91, 93] t₀ done t →
          Manifest.Gap (Manifest.temporaryName stem "000000") (Manifest.fileName stem) done →
          t.get? path.names = none := by
  intro m t₀ path
  have hpath : m.destination (some "a") = .ok path := rfl
  have hold : t₀.get? path.names = some (.file [123, 125]) := by decide
  obtain ⟨stem, hstem, hall⟩ := old_or_new_outside_gap m hpath hold
  refine ⟨hpath, hold, stem, hstem, fun done t hvisible hgap => ?_⟩
  exact ((hall "000000" [91, 93]).1 done t hvisible).2 hgap

/-- **A manifest that goes missing**: the call succeeds, and when the place is cleared a reader
finds neither the manifest that was there nor the new one. -/
theorem manifest_goes_missing :
    let m : Materializer := ⟨⟨"/b", ["/", "b"]⟩⟩
    let t₀ : FileTree := ⟨[([], .directory), (["/"], .directory), (["/", "b"], .directory),
      (["/", "b", "a.json"], .file [123, 125])]⟩
    let path : FilePath := m.directory.child "a.json"
    m.destination (some "a") = .ok path ∧ t₀.get? path.names = some (.file [123, 125]) ∧
      (m.replace "000000" "a" [91, 93] t₀).1 = .ok path ∧
      ∃ done t, Manifest.Visible m.directory.names (Manifest.temporaryName "a" "000000")
        (Manifest.fileName "a") [91, 93] t₀ done t ∧ t.get? path.names = none := by
  intro m t₀ path
  let cleared : FileTree := ⟨[(["/", "b", "a000000.json"], .file [91, 93]), ([], .directory),
    (["/"], .directory), (["/", "b"], .directory)]⟩
  have hrun : FileStep.run m.directory.names [.create "a000000.json",
      .write "a000000.json" [91, 93], .sync "a000000.json", .clear "a.json"] t₀ =
        (.ok (), cleared) := by
    cbv
  have hok : (m.replace "000000" "a" [91, 93] t₀).1 = .ok (m.directory.child "a.json") := by
    cbv
  exact ⟨rfl, by decide, hok, _, cleared, .between ⟨[.rename "a000000.json" "a.json"], rfl⟩ hrun,
    by decide⟩

end NodeSidecar
