/-
**The manifests of different units.**

The path of a unit depends on its stem only, and two accepted units have one path if and only if
they have one stem.  So among calls that succeed no unit replaces the manifest of another one, with
one exception: the identifier that is the stem of the incremental manifest is accepted, and the unit
with this identifier and the one without an identifier have one file between them.

Main results:

* `Materializer.destination_eq_ok_iff` — the path of a unit;
* `Materializer.names_destination_inj` — **only namesakes share a path**;
* `Materializer.answers_of_succeed` — calls that succeed return the paths of their units;
* `units_keep_their_manifests` — **a file has the body of the last call for its unit or a
  namesake**;
* `incremental_manifest_is_replaced` — an incremental manifest that another unit replaces.
-/

import NodeSidecar.Proofs.Backup.Calls

set_option autoImplicit false

namespace NodeSidecar

namespace Materializer

variable {m : Materializer} {c : ManifestCall} {cs : List ManifestCall} {t : FileTree}

/-- **The path of a unit.** -/
theorem destination_eq_ok_iff {u : Option String} {p : FilePath} : m.destination u = .ok p ↔
    (∀ identifier, u = some identifier → Manifest.isPlain identifier = true) ∧
      p = m.directory.child (Manifest.fileName (Manifest.stemOf u)) := by
  rw [destination]
  cases hstem : Manifest.stem u with
  | error e =>
      refine iff_of_false (by rintro ⟨⟩) fun h => ?_
      rw [Manifest.stem_eq_ok_iff.2 ⟨h.1, rfl⟩] at hstem
      cases hstem
  | ok stem =>
      obtain ⟨hplain, rfl⟩ := Manifest.stem_eq_ok_iff.1 hstem
      exact ⟨fun h => ⟨hplain, (Except.ok.inj h).symm⟩, fun h => h.2 ▸ rfl⟩

/-- **Only namesakes share a path.** -/
theorem names_destination_inj {u v : Option String} {p q : FilePath}
    (hu : m.destination u = .ok p) (hv : m.destination v = .ok q) :
    p.names = q.names ↔ u = v ∨ Manifest.Namesakes u v := by
  obtain ⟨-, rfl⟩ := destination_eq_ok_iff.1 hu
  obtain ⟨-, rfl⟩ := destination_eq_ok_iff.1 hv
  rw [FilePath.names_child, FilePath.names_child, List.append_cancel_left_eq, List.singleton_inj,
    Manifest.fileName_inj, Manifest.stemOf_eq_iff]

/-- A call that succeeds returns the path of its unit. -/
theorem destination_of_answer {path : FilePath} (h : (m.answer c t).1 = .ok path) :
    m.destination c.identifier? = .ok path := by
  have hframed := framed m c t
  have hstem := (hframed.succeeds.1 ⟨path, h⟩).stem
  rw [(hframed.path path h).1, ManifestCall.name, Manifest.within_fileName m.directory hstem]
  exact destination_eq_ok_iff.2 ⟨(Manifest.stem_eq_ok_iff.1 hstem).1, rfl⟩

/-- **Calls that succeed return the paths of their units.** -/
theorem answers_of_succeed (hall : ∀ r ∈ (m.answers cs t).1, ∃ path, r = .ok path) :
    (m.answers cs t).1 = cs.map fun c => m.destination c.identifier? := by
  induction cs generalizing t with
  | nil => rfl
  | cons c cs ih =>
      rw [answers, List.forall_mem_cons] at hall
      obtain ⟨⟨path, hpath⟩, hrest⟩ := hall
      rw [answers, List.map_cons, ih hrest, hpath, destination_of_answer hpath]

end Materializer

/-- **A file has the body of the last call for its unit.**  If calls succeed one after another, then

* they return the paths of their units;
* after the last call for a unit and its namesakes the file of the unit has the body of that call;
* two units share a file if and only if they are the same or namesakes. -/
theorem units_keep_their_manifests (m : Materializer) (cs : List ManifestCall) (t : FileTree)
    (hall : ∀ r ∈ (m.answers cs t).1, ∃ path, r = .ok path) :
    (m.answers cs t).1 = cs.map (fun c => m.destination c.identifier?) ∧
    (∀ before c later, cs = before ++ c :: later →
      (∀ d ∈ later, ¬ (d.identifier? = c.identifier? ∨
        Manifest.Namesakes d.identifier? c.identifier?)) →
      ∃ path body, m.destination c.identifier? = .ok path ∧ c.body = .ok body ∧
        (m.answers cs t).2.get? path.names = some (.file body)) ∧
    ∀ u v p q, m.destination u = .ok p → m.destination v = .ok q →
      (p.names = q.names ↔ u = v ∨ Manifest.Namesakes u v) := by
  refine ⟨Materializer.answers_of_succeed hall, fun before c later hcs hlast => ?_,
    fun u v p q hu hv => Materializer.names_destination_inj hu hv⟩
  subst hcs
  rw [Materializer.answers_append, Materializer.answers] at hall ⊢
  set t₁ := (m.answers before t).2
  obtain ⟨path, hpath⟩ := hall _ (List.mem_append_right _ List.mem_cons_self)
  have hlater := Materializer.answers_of_succeed fun r hr =>
    hall r (List.mem_append_right _ (List.mem_cons_of_mem _ hr))
  obtain ⟨body, hbody, hget⟩ := (m.framed c t₁).body path hpath
  have hdestination := Materializer.destination_of_answer hpath
  refine ⟨path, body, hdestination, hbody, ?_⟩
  rw [m.answers_frame later _ fun path' hpath' => ?_, hget]
  -- the path of a later call is that of another file
  rw [hlater] at hpath'
  obtain ⟨d, hd, hd'⟩ := List.mem_map.1 hpath'
  exact fun hnames =>
    hlast d hd ((Materializer.names_destination_inj hd' hdestination).1 hnames.symm)

/-- An incremental manifest with one entry, and an empty manifest behind it. -/
theorem units_keep_their_manifests_of_two :
    let m : Materializer := ⟨⟨"/b", ["/", "b"]⟩⟩
    let t : FileTree := ⟨[([], .directory), (["/"], .directory), (["/", "b"], .directory)]⟩
    let c : ManifestCall :=
      { identifier? := none, entries? := some [.ok (.str "a.db")], token := "000000" }
    let d : ManifestCall := { identifier? := some "a", token := "000000" }
    let path := m.directory.child "incrementalMeta.json"
    (∀ r ∈ (m.answers [c, d] t).1, ∃ path, r = .ok path) ∧
      (m.answers [c, d] t).2.get? path.names = some (.file (Text.utf8Bytes "[\"a.db\"]")) := by
  intro m t c d path
  have hbody : c.body = .ok (Text.utf8Bytes "[\"a.db\"]") := by cbv
  have hc : m.answer c t =
      (.ok path, t.put path.names (.file (Text.utf8Bytes "[\"a.db\"]"))) :=
    Materializer.answer_of_accepts ⟨⟨_, hbody⟩, by rintro _ ⟨⟩, by decide, by decide, by decide,
      by decide, by decide⟩ hbody
  have hd : (m.answer d (m.answer c t).2).1 = .ok (m.directory.child "a.json") := by
    rw [hc, Materializer.answer_of_accepts ⟨⟨_, rfl⟩, by rintro _ ⟨⟩; decide, by decide, by decide,
      by decide, by decide, by decide⟩ rfl]
    rfl
  have hall : ∀ r ∈ (m.answers [c, d] t).1, ∃ path, r = .ok path := by
    rw [Materializer.answers, Materializer.answers, hd, hc]
    simp [Materializer.answers]
  obtain ⟨path', body, hpath', hbody', hget⟩ :=
    (units_keep_their_manifests m [c, d] t hall).2.1 [] c [d] rfl
      (by simp [c, d, Manifest.Namesakes, Manifest.incrementalStem])
  have hpath : m.destination c.identifier? = .ok path := rfl
  obtain rfl := Except.ok.inj (hpath.symm.trans hpath')
  obtain rfl := Except.ok.inj (hbody.symm.trans hbody')
  exact ⟨hall, hget⟩

/-- **An incremental manifest that another unit replaces**: the unit `incrementalMeta` is accepted,
and writes its manifest over that of the unit without an identifier. -/
theorem incremental_manifest_is_replaced :
    let m : Materializer := ⟨⟨"/b", ["/", "b"]⟩⟩
    let t : FileTree := ⟨[([], .directory), (["/"], .directory), (["/", "b"], .directory)]⟩
    let path := m.directory.child "incrementalMeta.json"
    let first := m.finalizeWith none [.ok (.str "a.db")] t
    let second := m.finalize (some "incrementalMeta") first.2
    first.1 = .ok path ∧ first.2.get? path.names = some (.file (Text.utf8Bytes "[\"a.db\"]")) ∧
      second.1 = .ok path ∧ second.2.get? path.names = some (.file (Text.utf8Bytes "[]")) := by
  intro m t path first second
  have hfirst : first = (.ok path, t.put path.names (.file (Text.utf8Bytes "[\"a.db\"]"))) := by
    refine (m.finalizeWith_eq_answer _ _ t).trans (Materializer.answer_of_accepts
      ⟨⟨Text.utf8Bytes "[\"a.db\"]", ?_⟩, ?_, ?_, ?_, ?_, ?_, ?_⟩ ?_)
    · cbv
    · rintro _ ⟨⟩
    · decide
    · decide
    · decide
    · exact m.get?_temporary_chosen _ _ t
    · decide
    · cbv
  have hsecond : second =
      (.ok path, first.2.put path.names (.file (Text.utf8Bytes "[]"))) := by
    refine (m.finalize_eq_answer _ first.2).trans (Materializer.answer_of_accepts
      ⟨⟨_, rfl⟩, ?_, ?_, ?_, ?_, ?_, ?_⟩ rfl)
    · rintro _ ⟨⟩
      decide
    · rw [hfirst]; decide
    · rw [hfirst]; decide
    · rw [hfirst]; decide
    · exact m.get?_temporary_chosen _ _ first.2
    · rw [hfirst]; decide
  rw [hsecond, hfirst]
  exact ⟨rfl, FileTree.get?_put_self _ _ _, rfl, FileTree.get?_put_self _ _ _⟩

end NodeSidecar
