/-
**The order in which handlers see events.**

An emission calls the handlers one after another, and another emission may call some of them in
between.  If one emission is ahead at a handler and the other one at another handler, then these two
handlers see the two events in different orders.  Nothing keeps emissions from this: they share the
handlers of the bus, and the loop of the scheduler emits while fires that end emit too.  Events are
received in one order if and only if no two emissions are ahead of each other.

Main definitions:

* `callsOf`, `sharedBy` — how many handlers an emission has called, and how many two of them;
* `Leads` — an emission is ahead of another one at some handler of both.

Main results:

* `Traffic.handlers_deliveriesOf` — the handlers that an emission has called, by their number;
* `Traffic.pair_seen_iff` — **a handler sees first what is ahead at it**;
* `handlers_agree_iff_not_both_lead` — **two events are seen in one order if and only if not each of
  the two emissions leads the other**;
* `handlers_disagree` — two handlers of a scheduler that see two events in different orders.
-/

import Mathlib.Data.List.Infix
import NodeSidecar.Proofs.Events.Announcing

set_option autoImplicit false

namespace NodeSidecar

/-- The number of handlers that an emission calls in a history. -/
def callsOf (ms : List BusStep) (n : Nat) : Nat := ms.count (.call n)

/-- The number of handlers that two emissions call. -/
def sharedBy (ms : List BusStep) (n m : Nat) : Nat := min (callsOf ms n) (callsOf ms m)

/-- **An emission leads another one**: at some moment it has called more handlers, and the next one
that the other is to call is called by both. -/
def Leads (ms : List BusStep) (n m : Nat) : Prop :=
  ∃ early ∈ ms.inits, callsOf early m < callsOf early n ∧ callsOf early m < sharedBy ms n m

instance (ms : List BusStep) (n m : Nat) : Decidable (Leads ms n m) :=
  inferInstanceAs (Decidable (∃ early ∈ ms.inits, _))

theorem sharedBy_comm (ms : List BusStep) (n m : Nat) : sharedBy ms n m = sharedBy ms m n :=
  Nat.min_comm _ _

theorem callsOf_concat (ms : List BusStep) (x : BusStep) (n : Nat) :
    callsOf (ms ++ [x]) n = callsOf ms n + if x = .call n then 1 else 0 := by
  rw [callsOf, List.count_append, List.count_singleton, callsOf]
  simp

theorem callsOf_mono {ms ns : List BusStep} (h : ms <+: ns) (n : Nat) :
    callsOf ms n ≤ callsOf ns n := h.sublist.count_le _

/-- The steps before and behind the one that begins an emission. -/
theorem exists_begun {ms : List BusStep} {n : Nat} (h : n < emissionsIn ms) :
    ∃ a e b, ms = a ++ .begin e :: b ∧ emissionsIn a = n := by
  induction ms using List.reverseRecOn with
  | nil => exact absurd h (Nat.not_lt_zero n)
  | append_singleton ms x ih =>
      by_cases hn : n < emissionsIn ms
      · obtain ⟨a, e, b, rfl, ha⟩ := ih hn
        exact ⟨a, e, b ++ [x], by simp, ha⟩
      · rw [emissionsIn_append, emissionsIn_singleton] at h
        cases x with
        | begin e =>
            simp only [BusStep.begins, if_true] at h
            exact ⟨ms, e, [], rfl, by omega⟩
        | register | call _ | close _ => exact absurd h hn

namespace Traffic

variable {ms : List BusStep} {s : Traffic} {n m i : Nat}

/-- An emission makes its calls by its own steps. -/
theorem length_deliveriesOf (h : after ms = some s) (n : Nat) :
    (s.deliveriesOf n).length = callsOf ms n := by
  induction ms using List.reverseRecOn generalizing s with
  | nil =>
      obtain rfl := Option.some.inj h
      rfl
  | append_singleton ms x ih =>
      obtain ⟨t, hms, hstep⟩ := run_concat.1 h
      rw [callsOf_concat, ← ih hms]
      cases stepped hstep with
      | registered _ | begun event | closed _ => rfl
      | @called n' handler event rest _ =>
          -- the only step that adds a call, and it adds it to its own emission
          simp only [deliveriesOf, List.filter_append, List.length_append, BusStep.call.injEq]
          by_cases hn : n' = n <;> simp [hn]

/-- **The handlers that an emission has called** are the first ones, in order. -/
theorem handlers_deliveriesOf (h : after ms = some s) (n : Nat) :
    (s.deliveriesOf n).map Delivery.handler = List.range (callsOf ms n) := by
  rw [← length_deliveriesOf h n]
  by_cases hn : n < emissionsIn ms
  · obtain ⟨a, e, b, rfl, rfl⟩ := exists_begun hn
    obtain ⟨called, waiting, closed, hemits, hall, -⟩ := exists_emits h
    have hcalled : called = List.range called.length := by
      have hle : called.length ≤ handlersIn a := by
        rw [← List.length_range (n := handlersIn a), ← hall, List.length_append]
        exact Nat.le_add_right _ _
      calc called = (called ++ waiting).take called.length := by rw [List.take_left]
        _ = List.range called.length := by rw [hall, List.take_range, Nat.min_eq_left hle]
    rw [hemits.deliveries, List.map_map, List.length_map, ← hcalled]
    exact List.map_id called
  · have hnone : s.deliveriesOf n = [] := by
      refine List.filter_eq_nil_iff.2 fun d hd => ?_
      have hlt := (sound_of_after h).deliveries d hd
      simp only [beq_iff_eq]
      omega
    rw [hnone]
    rfl

/-- A handler has seen an emission when that has called so many handlers. -/
theorem mem_seen_iff (h : after ms = some s) : n ∈ s.seen i ↔ i < callsOf ms n := by
  rw [← List.count_pos_iff, count_seen, handlers_deliveriesOf h, List.count_pos_iff, List.mem_range]

theorem nodup_seen (h : after ms = some s) (i : Nat) : (s.seen i).Nodup := by
  refine List.nodup_iff_count_le_one.2 fun n => ?_
  rw [count_seen, handlers_deliveriesOf h]
  exact List.nodup_iff_count_le_one.1 List.nodup_range i

/-- **One step** lets a handler see one emission more at most. -/
theorem seen_step {t : Traffic} {x : BusStep} (hstep : t.step x = some s) (i : Nat) :
    s.seen i = t.seen i ∨ ∃ n, s.seen i = t.seen i ++ [n] := by
  cases stepped hstep with
  | registered _ | begun event | closed _ => exact Or.inl rfl
  | @called n handler event rest _ =>
      simp only [seen, List.filter_append, List.map_append]
      by_cases hi : handler = i
      · exact Or.inr ⟨n, by simp [hi]⟩
      · exact Or.inl (by simp [hi])

/-- What a handler has seen in some order, it has seen when one of them was ahead. -/
theorem exists_ahead (h : after ms = some s) (hpair : [n, m].Sublist (s.seen i)) :
    ∃ early ∈ ms.inits, callsOf early m ≤ i ∧ i < callsOf early n := by
  induction ms using List.reverseRecOn generalizing s with
  | nil =>
      obtain rfl := Option.some.inj h
      cases hpair
  | append_singleton ms x ih =>
      obtain ⟨t, hms, hstep⟩ := run_concat.1 h
      have hgrow : ∀ early ∈ ms.inits, early ∈ (ms ++ [x]).inits := fun early hearly =>
        (List.mem_inits _ _).2 (((List.mem_inits _ _).1 hearly).trans (List.prefix_append _ _))
      by_cases hold : [n, m].Sublist (t.seen i)
      · obtain ⟨early, hearly, hahead⟩ := ih hms hold
        exact ⟨early, hgrow early hearly, hahead⟩
      · -- this step lets the handler see the second one
        rcases seen_step hstep i with hseen | ⟨m', hseen⟩
        · exact absurd (hseen ▸ hpair) hold
        · rw [hseen] at hpair
          obtain ⟨l, l', hl, hsub, hsub'⟩ := List.sublist_append_iff.1 hpair
          rcases List.sublist_singleton.1 hsub' with rfl | rfl
          · rw [List.append_nil] at hl
            exact absurd (hl ▸ hsub) hold
          · obtain ⟨rfl, hm⟩ := List.append_inj' (show [n] ++ [m] = l ++ [m'] from hl) rfl
            obtain rfl := List.head_eq_of_cons_eq hm
            have hnew : m ∉ t.seen i := by
              have hnodup := nodup_seen h i
              rw [hseen, List.nodup_append] at hnodup
              exact fun hmem => hnodup.2.2 m hmem m (List.mem_singleton_self m) rfl
            rw [mem_seen_iff hms, Nat.not_lt] at hnew
            exact ⟨ms, hgrow ms ((List.mem_inits _ _).2 List.prefix_rfl), hnew,
              (mem_seen_iff hms).1 (List.singleton_sublist.1 hsub)⟩

/-- **A handler sees first what is ahead at it**: one of two emissions has called it at some moment
at which the other has not. -/
theorem pair_seen_iff (h : after ms = some s) (hm : i < callsOf ms m) :
    [n, m].Sublist (s.seen i) ↔ ∃ early ∈ ms.inits, callsOf early m ≤ i ∧ i < callsOf early n := by
  refine ⟨exists_ahead h, fun ⟨early, hearly, hnot, hcalled⟩ => ?_⟩
  obtain ⟨rest, rfl⟩ := (List.mem_inits _ _).1 hearly
  obtain ⟨t, ht, hrest⟩ := run_append.1 h
  obtain ⟨later, hseen, -⟩ := seen_of_grown (deliveries_grow hrest) i
  have hfirst : n ∈ t.seen i := (mem_seen_iff ht).2 hcalled
  have hsecond : m ∈ later := by
    have hmem := (mem_seen_iff h).2 hm
    rw [hseen, List.mem_append, mem_seen_iff ht] at hmem
    exact hmem.resolve_left (Nat.not_lt.2 hnot)
  rw [hseen]
  exact (List.singleton_sublist.2 hfirst).append (List.singleton_sublist.2 hsecond)

/-- An emission leads another one if and only if some handler sees it first. -/
theorem leads_iff (h : after ms = some s) :
    Leads ms n m ↔ ∃ i < sharedBy ms n m, [n, m].Sublist (s.seen i) := by
  constructor
  · rintro ⟨early, hearly, hahead, hshared⟩
    have hm : callsOf early m < callsOf ms m := lt_of_lt_of_le hshared (Nat.min_le_right _ _)
    exact ⟨_, hshared, (pair_seen_iff h hm).2 ⟨early, hearly, le_rfl, hahead⟩⟩
  · rintro ⟨i, hi, hpair⟩
    obtain ⟨early, hearly, hnot, hcalled⟩ := exists_ahead h hpair
    exact ⟨early, hearly, by omega, by omega⟩

/-- A handler that has seen two emissions has seen one of them first. -/
theorem pair_seen_iff_not (h : after ms = some s) (hne : n ≠ m) (hi : i < sharedBy ms n m) :
    [m, n].Sublist (s.seen i) ↔ ¬ [n, m].Sublist (s.seen i) := by
  have hn : i < callsOf ms n := lt_of_lt_of_le hi (Nat.min_le_left _ _)
  have hm : i < callsOf ms m := lt_of_lt_of_le hi (Nat.min_le_right _ _)
  constructor
  · intro hmn hnm
    -- of the two moments one is the earlier one, and calls are not taken back
    obtain ⟨early, hearly, hm', hn'⟩ := exists_ahead h hnm
    obtain ⟨early', hearly', hn'', hm''⟩ := exists_ahead h hmn
    rw [List.mem_inits] at hearly hearly'
    rcases List.prefix_or_prefix_of_prefix hearly hearly' with hle | hle
    · exact absurd (callsOf_mono hle n) (by omega)
    · exact absurd (callsOf_mono hle m) (by omega)
  · intro hnot
    obtain ⟨u, v, huv⟩ := List.append_of_mem ((mem_seen_iff h).2 hn)
    have hmem : m ∈ u ++ n :: v := huv ▸ (mem_seen_iff h).2 hm
    rw [huv] at hnot ⊢
    have hv : m ∉ v := fun hv =>
      hnot (((List.singleton_sublist.2 hv).cons_cons n).trans (List.sublist_append_right u _))
    have hu : m ∈ u := by simpa [Ne.symm hne, hv] using hmem
    exact (List.singleton_sublist.2 hu).append ((List.nil_sublist v).cons_cons n)

end Traffic

/-- **Two events are seen in one order if and only if not each of the two emissions leads the
other.**  The handlers that see an event are those with the numbers below `callsOf`, which are all
handlers registered before its emission when that has returned; and each of those that see both
events sees one of them first. -/
theorem handlers_agree_iff_not_both_lead {ms : List BusStep} {s : Traffic}
    (h : Traffic.after ms = some s) :
    (∀ n i, n ∈ s.seen i ↔ i < callsOf ms n) ∧
    (∀ before event later, ms = before ++ .begin event :: later →
      .close (emissionsIn before) ∈ later → callsOf ms (emissionsIn before) = handlersIn before) ∧
    ∀ n m, n ≠ m →
      (∀ i < sharedBy ms n m, [m, n].Sublist (s.seen i) ↔ ¬ [n, m].Sublist (s.seen i)) ∧
      ((∀ i < sharedBy ms n m, ∀ j < sharedBy ms n m,
          ([n, m].Sublist (s.seen i) ↔ [n, m].Sublist (s.seen j))) ↔
        ¬ (Leads ms n m ∧ Leads ms m n)) := by
  refine ⟨fun n i => Traffic.mem_seen_iff h, fun before event later hms hclosed => ?_,
    fun n m hne => ⟨fun i hi => Traffic.pair_seen_iff_not h hne hi, ?_⟩⟩
  · subst hms
    rw [← Traffic.length_deliveriesOf h, (Traffic.emits_of_returned h hclosed).deliveries,
      List.length_map, List.length_range]
  · rw [Traffic.leads_iff h, Traffic.leads_iff h, sharedBy_comm ms m n]
    constructor
    · rintro hagree ⟨⟨i, hi, hnm⟩, j, hj, hmn⟩
      exact (Traffic.pair_seen_iff_not h hne hj).1 hmn ((hagree i hi j hj).1 hnm)
    · intro hnot i hi j hj
      -- a handler that sees the other one first would make that lead
      have hfirst : ∀ i < sharedBy ms n m, [n, m].Sublist (s.seen i) →
          ∀ j < sharedBy ms n m, [n, m].Sublist (s.seen j) := by
        intro i hi hnm j hj
        by_contra hsecond
        exact hnot ⟨⟨i, hi, hnm⟩, j, hj, (Traffic.pair_seen_iff_not h hne hj).2 hsecond⟩
      exact ⟨fun hnm => hfirst i hi hnm j hj, fun hnm => hfirst j hj hnm i hi⟩

/-- Two emissions that call two handlers in turns, one of them ahead at each, and a third one behind
both. -/
theorem handlers_agree_iff_of_turns :
    let ms : List BusStep := [.register, .register, .begin (.skipped "a"), .begin (.skipped "b"),
      .call 0, .call 1, .call 1, .call 0, .close 0, .close 1, .begin (.skipped "c"), .call 2,
      .call 2, .close 2]
    ∃ s, Traffic.after ms = some s ∧ sharedBy ms 0 1 = 2 ∧ sharedBy ms 0 2 = 2 ∧
      (Leads ms 0 1 ∧ Leads ms 1 0) ∧
      (¬ ∀ i < 2, ∀ j < 2, ([0, 1].Sublist (s.seen i) ↔ [0, 1].Sublist (s.seen j))) ∧
      Leads ms 0 2 ∧ ¬ Leads ms 2 0 ∧
      ∀ i < 2, ∀ j < 2, ([0, 2].Sublist (s.seen i) ↔ [0, 2].Sublist (s.seen j)) := by
  intro ms
  obtain ⟨s, hs⟩ : ∃ s, Traffic.after ms = some s := ⟨_, rfl⟩
  have hboth : Leads ms 0 1 ∧ Leads ms 1 0 := by decide
  have hone : ¬ Leads ms 2 0 := by decide
  have hagree := (handlers_agree_iff_not_both_lead hs).2.2
  exact ⟨s, hs, by decide, by decide, hboth, fun h => (hagree 0 1 (by decide)).2.1 h hboth,
    by decide, hone, (hagree 0 2 (by decide)).2.2 fun h => hone h.2⟩

/-- **Two handlers of a scheduler see two events in different orders.**  A fire ends, and while the
first handler sees that, the loop dispatches another fire and tells both handlers; then the second
handler sees that the first fire has ended. -/
theorem handlers_disagree :
    ∃ σ : Announcing, σ.Reached ∧
      σ.steps = [.register, .register, .begin (.fired "audit" ⟨1⟩ .manual), .call 0, .call 0,
        .close 0, .begin (.completed "audit" ⟨1⟩ ⟨5⟩), .begin (.fired "audit" ⟨2⟩ .manual), .call 1,
        .call 2, .call 2, .call 1, .close 2, .close 1] ∧
      ∃ s, Traffic.after σ.steps = some s ∧ s.seen 0 = [0, 1, 2] ∧ s.seen 1 = [0, 2, 1] := by
  have hstart : Announcing.Reached { loop := Loop.auditing .allow (.ofSeconds 30) } := .start _ rfl
  have hfirst := ((hstart.bus .register rfl rfl).bus .register rfl rfl).dispatch "audit" .manual
    rfl rfl
  have hclosed := ((hfirst.bus (.call 0) rfl rfl).bus (.call 0) rfl rfl).bus (.close 0) rfl rfl
  have hended := hclosed.finish ⟨1⟩ (.completed ⟨5⟩) (fun _ _ _ h => by cases h) rfl
  have hsecond := hended.dispatch "audit" .manual rfl rfl
  have hcalls := (((hsecond.bus (.call 1) rfl rfl).bus (.call 2) rfl rfl).bus (.call 2) rfl
    rfl).bus (.call 1) rfl rfl
  exact ⟨_, (hcalls.bus (.close 2) rfl rfl).bus (.close 1) rfl rfl, rfl, _, rfl, by decide,
    by decide⟩

end NodeSidecar
