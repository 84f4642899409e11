/-
**Histories of fires.**

A history is the list of the events that a scheduler has emitted so far.  It alone tells which fires
are unfinished: those that were fired and of which no end has been told.  This module says which
lists of events are histories at all — no identifier is used twice, only an unfinished fire ends,
and under the skipping policy a task neither fires while a fire of it is unfinished nor is skipped
while none is — and what follows from that for every history.

Main definitions:

* `firesOf`, `endsOf` — the fires of a list of events, and the identifiers that have ended;
* `openFires`, `openFiresOf` — the unfinished fires, and those of one task;
* `History` — the lists of events that keep the rules.

Main results:

* `History.length_openFiresOf_le_one` — **without overlap a task has at most one unfinished fire**;
* `History.left_of_append` — every beginning of a history is a history;
* `History.nodup_fires`, `History.nodup_ends` — a fire begins and ends once at most;
* `History.end_between_fires` — without overlap the end of a fire comes before the next fire of its
  task.
-/

import Mathlib.Data.List.Induction
import Mathlib.Data.List.Nodup
import NodeSidecar.Scheduler.Basic

set_option autoImplicit false

namespace NodeSidecar

/-- The fire that an event begins, with its task. -/
def Event.fire? : Event → Option (String × FireId)
  | .fired task id _ => some (task, id)
  | _ => none

/-- The fire that an event ends. -/
def Event.end? : Event → Option FireId
  | .completed _ id _ | .failed _ id _ => some id
  | _ => none

@[simp] theorem Outcome.fire?_event (o : Outcome) (task : String) (id : FireId) :
    (o.event task id).fire? = none := by
  rcases o with _ | _ | (_ | _) <;> rfl

@[simp] theorem Outcome.end?_event (o : Outcome) (task : String) (id : FireId) :
    (o.event task id).end? = some id := by
  rcases o with _ | _ | (_ | _) <;> rfl

/-! ### The fires of a list of events -/

/-- The fires of a list of events, with their tasks. -/
def firesOf (es : List Event) : List (String × FireId) := es.filterMap Event.fire?

/-- The fires that have ended. -/
def endsOf (es : List Event) : List FireId := es.filterMap Event.end?

/-- The fires that have not ended. -/
def openFires (es : List Event) : List (String × FireId) :=
  (firesOf es).filter fun f => decide (f.2 ∉ endsOf es)

/-- The fires of a task that have not ended. -/
def openFiresOf (task : String) (es : List Event) : List (String × FireId) :=
  (openFires es).filter fun f => f.1 == task

@[simp] theorem firesOf_nil : firesOf [] = [] := rfl

@[simp] theorem endsOf_nil : endsOf [] = [] := rfl

@[simp] theorem openFires_nil : openFires [] = [] := rfl

@[simp] theorem firesOf_append (es fs : List Event) :
    firesOf (es ++ fs) = firesOf es ++ firesOf fs := List.filterMap_append

@[simp] theorem endsOf_append (es fs : List Event) :
    endsOf (es ++ fs) = endsOf es ++ endsOf fs := List.filterMap_append

@[simp] theorem firesOf_fired (task : String) (id : FireId) (source : FireSource) :
    firesOf [.fired task id source] = [(task, id)] := rfl

@[simp] theorem endsOf_fired (task : String) (id : FireId) (source : FireSource) :
    endsOf [.fired task id source] = [] := rfl

@[simp] theorem firesOf_skipped (task : String) : firesOf [.skipped task] = [] := rfl

@[simp] theorem endsOf_skipped (task : String) : endsOf [.skipped task] = [] := rfl

@[simp] theorem firesOf_event (o : Outcome) (task : String) (id : FireId) :
    firesOf [o.event task id] = [] := by simp [firesOf]

@[simp] theorem endsOf_event (o : Outcome) (task : String) (id : FireId) :
    endsOf [o.event task id] = [id] := by simp [endsOf]

theorem mem_openFires {es : List Event} {f : String × FireId} :
    f ∈ openFires es ↔ f ∈ firesOf es ∧ f.2 ∉ endsOf es := by
  simp [openFires, List.mem_filter]

theorem mem_openFiresOf {task : String} {es : List Event} {f : String × FireId} :
    f ∈ openFiresOf task es ↔ f ∈ openFires es ∧ f.1 = task := by
  simp [openFiresOf, List.mem_filter]

theorem mem_firesOf {es : List Event} {f : String × FireId} :
    f ∈ firesOf es ↔ ∃ source, Event.fired f.1 f.2 source ∈ es := by
  unfold firesOf
  rw [List.mem_filterMap]
  constructor
  · rintro ⟨e, he, hf⟩
    cases e with
    | fired task id source =>
        obtain rfl : (task, id) = f := Option.some.inj hf
        exact ⟨source, he⟩
    | _ => simp [Event.fire?] at hf
  · rintro ⟨source, h⟩
    exact ⟨_, h, rfl⟩

/-- A fire with an identifier that has not ended is unfinished. -/
theorem openFires_fired {es : List Event} {task : String} {id : FireId} (h : id ∉ endsOf es)
    (source : FireSource) :
    openFires (es ++ [.fired task id source]) = openFires es ++ [(task, id)] := by
  simp [openFires, List.filter_append, h]

/-- The end of a fire takes it from the unfinished ones. -/
theorem openFires_event (es : List Event) (o : Outcome) (task : String) (id : FireId) :
    openFires (es ++ [o.event task id]) = (openFires es).filter fun f => decide (f.2 ≠ id) := by
  simp only [openFires, firesOf_append, endsOf_append, firesOf_event, endsOf_event,
    List.append_nil, List.filter_filter]
  refine List.filter_congr fun f _ => ?_
  simp [and_comm]

@[simp] theorem openFires_skipped (es : List Event) (task : String) :
    openFires (es ++ [.skipped task]) = openFires es := by
  simp [openFires]

/-! ### Histories -/

/-- **The lists of events that keep the rules**, event by event. -/
inductive History (policy : OverlapPolicy) : List Event → Prop
  | nil : History policy []
  /-- A fire has an identifier of its own, and under the skipping policy no fire of its task is
  unfinished. -/
  | fired {es : List Event} {task : String} {id : FireId} (source : FireSource) :
      History policy es → id ∉ (firesOf es).map Prod.snd →
      (policy = .skip → openFiresOf task es = []) → History policy (es ++ [.fired task id source])
  /-- What ends is an unfinished fire. -/
  | ended {es : List Event} {task : String} {id : FireId} (o : Outcome) :
      History policy es → (task, id) ∈ openFires es → History policy (es ++ [o.event task id])
  /-- A task is skipped under the skipping policy only, while a fire of it is unfinished. -/
  | skipped {es : List Event} {task : String} :
      History policy es → policy = .skip → openFiresOf task es ≠ [] →
      History policy (es ++ [.skipped task])

namespace History

variable {policy : OverlapPolicy} {es fs : List Event}

/-- The last event of a history, and the history before it. -/
theorem snoc_cases {e : Event} (h : History policy (es ++ [e])) :
    History policy es ∧
      ((∃ task id source, e = .fired task id source ∧ id ∉ (firesOf es).map Prod.snd ∧
          (policy = .skip → openFiresOf task es = [])) ∨
        (∃ o task id, e = Outcome.event task id o ∧ (task, id) ∈ openFires es) ∨
        (∃ task, e = .skipped task ∧ policy = .skip ∧ openFiresOf task es ≠ [])) := by
  generalize hl : es ++ [e] = l at h
  cases h with
  | nil => simp at hl
  | fired source h hid ho =>
      obtain ⟨rfl, he⟩ := List.append_inj' hl rfl
      obtain rfl := List.cons.inj he |>.1
      exact ⟨h, Or.inl ⟨_, _, _, rfl, hid, ho⟩⟩
  | ended o h hm =>
      obtain ⟨rfl, he⟩ := List.append_inj' hl rfl
      obtain rfl := List.cons.inj he |>.1
      exact ⟨h, Or.inr (Or.inl ⟨_, _, _, rfl, hm⟩)⟩
  | skipped h hp ho =>
      obtain ⟨rfl, he⟩ := List.append_inj' hl rfl
      obtain rfl := List.cons.inj he |>.1
      exact ⟨h, Or.inr (Or.inr ⟨_, rfl, hp, ho⟩)⟩

/-- **Every beginning of a history is a history.** -/
theorem left_of_append (fs : List Event) (h : History policy (es ++ fs)) : History policy es := by
  induction fs using List.reverseRecOn with
  | nil => simpa using h
  | append_singleton fs e ih =>
      rw [← List.append_assoc] at h
      exact ih h.snoc_cases.1

/-- What has ended was fired. -/
theorem exists_fire_of_end (h : History policy es) {id : FireId} (hid : id ∈ endsOf es) :
    id ∈ (firesOf es).map Prod.snd := by
  induction h with
  | nil => simp at hid
  | fired source _ _ _ ih =>
      rw [endsOf_append, endsOf_fired, List.append_nil] at hid
      rw [firesOf_append, List.map_append]
      exact List.mem_append_left _ (ih hid)
  | @ended es task id' o _ hm ih =>
      rw [endsOf_append, endsOf_event, List.mem_append, List.mem_singleton] at hid
      rw [firesOf_append, firesOf_event, List.append_nil]
      rcases hid with hid | rfl
      · exact ih hid
      · exact List.mem_map_of_mem (mem_openFires.1 hm).1
  | skipped _ _ _ ih =>
      rw [endsOf_append, endsOf_skipped, List.append_nil] at hid
      rw [firesOf_append, firesOf_skipped, List.append_nil]
      exact ih hid

/-- No identifier is fired twice. -/
theorem nodup_fires (h : History policy es) : ((firesOf es).map Prod.snd).Nodup := by
  induction h with
  | nil => exact List.nodup_nil
  | @fired es task id source _ hid _ ih =>
      rw [firesOf_append, firesOf_fired, List.map_append]
      refine List.Nodup.append ih (List.nodup_singleton _) ?_
      simpa [List.disjoint_singleton] using hid
  | ended o _ _ ih => simpa using ih
  | skipped _ _ _ ih => simpa using ih

/-- No fire ends twice. -/
theorem nodup_ends (h : History policy es) : (endsOf es).Nodup := by
  induction h with
  | nil => exact List.nodup_nil
  | fired source _ _ _ ih => simpa using ih
  | ended o _ hm ih =>
      rw [endsOf_append, endsOf_event]
      refine List.Nodup.append ih (List.nodup_singleton _) ?_
      simpa [List.disjoint_singleton] using (mem_openFires.1 hm).2
  | skipped _ _ _ ih => simpa using ih

/-- A fire that is not there yet has not ended. -/
theorem not_mem_ends (h : History policy es) {id : FireId}
    (hid : id ∉ (firesOf es).map Prod.snd) : id ∉ endsOf es :=
  fun he => hid (h.exists_fire_of_end he)

/-- **Without overlap a task has at most one unfinished fire.** -/
theorem length_openFiresOf_le_one (h : History .skip es) (task : String) :
    (openFiresOf task es).length ≤ 1 := by
  induction h with
  | nil => simp [openFiresOf]
  | @fired es other id source h hid ho ih =>
      rw [openFiresOf, openFires_fired (h.not_mem_ends hid), List.filter_append]
      by_cases ht : other = task
      · -- nothing of the task was unfinished before
        subst ht
        have hnone : (openFires es).filter (fun f => f.1 == other) = [] := ho rfl
        simp [hnone]
      · simpa [ht, openFiresOf] using ih
  | ended o _ _ ih =>
      rw [openFiresOf, openFires_event]
      exact Nat.le_trans (List.filter_sublist.filter _).length_le ih
  | skipped _ _ _ ih => simpa [openFiresOf] using ih

/-- The end of a fire is told by one event only. -/
theorem filter_end?_eq (h : History policy es) {e : Event} (he : e ∈ es) {id : FireId}
    (hid : e.end? = some id) : es.filter (fun e => decide (e.end? = some id)) = [e] := by
  obtain ⟨a, b, rfl⟩ := List.append_of_mem he
  have hnd := h.nodup_ends
  have hcons : endsOf (e :: b) = id :: endsOf b := by simp [endsOf, hid]
  rw [endsOf_append, hcons] at hnd
  have hother : ∀ c : List Event, id ∉ endsOf c →
      c.filter (fun e => decide (e.end? = some id)) = [] := by
    intro c hc
    refine List.filter_eq_nil_iff.2 fun x hx hx' => hc ?_
    exact List.mem_filterMap.2 ⟨x, hx, by simpa using hx'⟩
  have ha : id ∉ endsOf a := fun hm =>
    (List.nodup_append.1 hnd).2.2 id hm id List.mem_cons_self rfl
  have hb : id ∉ endsOf b := (List.nodup_cons.1 (List.nodup_append.1 hnd).2.1).1
  rw [List.filter_append, List.filter_cons_of_pos (by simpa using hid), hother a ha, hother b hb]
  rfl

/-- **Without overlap the end of a fire comes before the next fire of its task.** -/
theorem end_between_fires {a b c : List Event} {task : String} {id id' : FireId}
    {source source' : FireSource}
    (h : History .skip (a ++ .fired task id source :: b ++ .fired task id' source' :: c)) :
    ∃ e ∈ b, e.end? = some id := by
  have hlate : History .skip ((a ++ .fired task id source :: b) ++ [.fired task id' source']) := by
    refine left_of_append c ?_
    simpa using h
  have hearly : History .skip (a ++ [.fired task id source]) := by
    refine left_of_append (b ++ .fired task id' source' :: c) ?_
    simpa using h
  have hnone : openFiresOf task (a ++ .fired task id source :: b) = [] := by
    rcases hlate.snoc_cases.2 with ⟨_, _, _, he, _, ho⟩ | ⟨o, t, i, he, _⟩ | ⟨_, he, _⟩
    · cases he; exact ho rfl
    · rcases o with _ | _ | (_ | _) <;> cases he
    · cases he
  have hfresh : id ∉ endsOf a := by
    rcases hearly.snoc_cases with ⟨ha, ⟨_, _, _, he, hid, _⟩ | ⟨o, t, i, he, _⟩ | ⟨_, he, _⟩⟩
    · cases he; exact ha.not_mem_ends hid
    · rcases o with _ | _ | (_ | _) <;> cases he
    · cases he
  -- the first fire is no longer unfinished, so its end stands among the events between
  have hended : id ∈ endsOf (a ++ .fired task id source :: b) := by
    by_contra hne
    have hmem : (task, id) ∈ openFiresOf task (a ++ .fired task id source :: b) :=
      mem_openFiresOf.2 ⟨mem_openFires.2 ⟨mem_firesOf.2 ⟨source, by simp⟩, hne⟩, rfl⟩
    rw [hnone] at hmem
    cases hmem
  have hb : id ∈ endsOf b := by
    rw [endsOf_append] at hended
    rcases List.mem_append.1 hended with hm | hm
    · exact absurd hm hfresh
    · simpa [endsOf, Event.end?] using hm
  obtain ⟨e, he, hid⟩ := List.mem_filterMap.1 hb
  exact ⟨e, he, hid⟩

end History

end NodeSidecar
