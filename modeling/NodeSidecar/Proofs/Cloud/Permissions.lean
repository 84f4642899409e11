/-
**Permissions as sets of address ranges.**

A permission request is settled or refused by the first rule of its slot, which is its protocol and
its range of ports.  When the rules have distinct slots, that rule holds all address ranges of the
slot, so a request that is settled joins or removes exactly its own ranges, in its own slot, and a
request is refused exactly when the set is already as it asks for one of its ranges.

Main definitions:

* `Slot`, `IngressRule.slot` — a protocol with a range of ports;
* `rangesOf` — the address ranges of a slot in a list of permissions;
* `DistinctSlots` — no slot has two rules;
* `IngressChange.applyTo`, `IngressChange.on` — a change of a list of permissions, and of a set;
* `Changed` — a list of permissions after a change of one slot.

Main results:

* `CidrSet.ext` — sets with the same texts are equal;
* `authorizeIn_of_absent`, `authorizeIn_of_split`, `revokeIn_of_absent`, `revokeIn_of_split` — what
  the two requests do to a list of permissions;
* `IngressChange.applyTo_cases` — **when a request is settled, and what it makes of the sets**;
* `IngressChange.applyTo_filter` — a request leaves the rules of other slots where they are;
* `Changed.trans` — one change after another is a change of the union.
-/

import Mathlib.Data.List.Nodup
import Mathlib.Data.List.Perm.Basic
import NodeSidecar.Cloud.Client

set_option autoImplicit false

namespace NodeSidecar

/-! ### Sets of address ranges -/

namespace CidrSet

/-- **Sets with the same texts are equal.** -/
theorem ext {s t : CidrSet} (h : ∀ c, c ∈ s ↔ c ∈ t) : s = t := by
  have hnd : ∀ u : CidrSet, u.elements.Nodup := fun u => by
    refine u.ascending.imp fun {a b} hlt heq => ?_
    rw [heq] at hlt
    exact String.lt_irrefl b hlt
  have hperm : s.elements.Perm t.elements :=
    (List.perm_ext_iff_of_nodup (hnd s) (hnd t)).2 h
  refine eq_of_elements_eq (hperm.eq_of_pairwise ?_ s.ascending t.ascending)
  intro a b _ _ hab hba
  exact absurd hba (String.lt_asymm hab)

theorem not_mem_empty (c : String) : c ∉ empty := List.not_mem_nil

@[simp] theorem mem_singleton {c x : String} : x ∈ singleton c ↔ x = c := List.mem_singleton

theorem isEmpty_iff {s : CidrSet} : s.isEmpty = true ↔ ∀ c, c ∉ s := by
  rw [isEmpty, List.isEmpty_iff, List.eq_nil_iff_forall_not_mem]
  rfl

theorem exists_mem_of_not_isEmpty {s : CidrSet} (h : s.isEmpty = false) : ∃ c, c ∈ s := by
  by_contra hno
  rw [isEmpty_iff.2 fun c hc => hno ⟨c, hc⟩] at h
  cases h

/-- A set with one text at most that is not empty is a set of one text. -/
theorem exists_singleton {s : CidrSet} (h : s.isEmpty = false) (hlen : s.elements.length ≤ 1) :
    ∃ c, s = singleton c := by
  obtain ⟨c, hc⟩ := exists_mem_of_not_isEmpty h
  obtain ⟨d, hd⟩ : ∃ d, s.elements = [d] :=
    List.length_eq_one_iff.1 (Nat.le_antisymm hlen (List.length_pos_of_mem hc))
  exact ⟨d, eq_of_elements_eq hd⟩

theorem firstIn?_eq_none {s t : CidrSet} : s.firstIn? t = none ↔ ∀ c ∈ s, c ∉ t := by
  simp [firstIn?, List.find?_eq_none, mem_iff]

theorem exists_of_firstIn? {s t : CidrSet} {c : String} (h : s.firstIn? t = some c) :
    c ∈ s ∧ c ∈ t :=
  ⟨List.mem_of_find?_eq_some h, by simpa [mem_iff] using List.find?_some h⟩

end CidrSet

/-! ### Slots -/

/-- A protocol with a range of ports. -/
structure Slot where
  protocol : String
  fromPort : UInt16
  toPort : UInt16
  deriving DecidableEq

/-- The slot of a rule. -/
def IngressRule.slot (r : IngressRule) : Slot := ⟨r.protocol, r.fromPort, r.toPort⟩

theorem IngressRule.sameSlot_iff {a b : IngressRule} : a.sameSlot b = true ↔ a.slot = b.slot := by
  simp [sameSlot, matchesRange, slot]

/-- The address ranges of a slot in a list of permissions. -/
def rangesOf (slot : Slot) (ps : List IngressRule) : CidrSet :=
  .ofList ((ps.filter fun p => decide (p.slot = slot)).flatMap fun p => p.cidrs.elements)

theorem mem_rangesOf {slot : Slot} {ps : List IngressRule} {c : String} :
    c ∈ rangesOf slot ps ↔ ∃ p ∈ ps, p.slot = slot ∧ c ∈ p.cidrs := by
  rw [rangesOf, CidrSet.mem_ofList, List.mem_flatMap]
  simp only [List.mem_filter, decide_eq_true_eq, and_assoc]
  rfl

/-- No slot has two rules. -/
def DistinctSlots (ps : List IngressRule) : Prop := (ps.map IngressRule.slot).Nodup

instance (ps : List IngressRule) : Decidable (DistinctSlots ps) :=
  inferInstanceAs (Decidable (List.Nodup _))

/-- A list of permissions has no rule of a slot, or it has a first one. -/
theorem absent_or_split (slot : Slot) (ps : List IngressRule) :
    slot ∉ ps.map IngressRule.slot ∨ ∃ before p after, ps = before ++ p :: after ∧
      slot ∉ before.map IngressRule.slot ∧ p.slot = slot := by
  induction ps with
  | nil => exact Or.inl List.not_mem_nil
  | cons p ps ih =>
      by_cases hp : p.slot = slot
      · exact Or.inr ⟨[], p, ps, rfl, List.not_mem_nil, hp⟩
      · rcases ih with hab | ⟨before, q, after, rfl, hbefore, hq⟩
        · refine Or.inl ?_
          rw [List.map_cons, List.mem_cons, not_or]
          exact ⟨Ne.symm hp, hab⟩
        · refine Or.inr ⟨p :: before, q, after, rfl, ?_, hq⟩
          rw [List.map_cons, List.mem_cons, not_or]
          exact ⟨Ne.symm hp, hbefore⟩

/-- A slot without rules has no address ranges. -/
theorem not_mem_rangesOf_of_absent {slot : Slot} {ps : List IngressRule}
    (h : slot ∉ ps.map IngressRule.slot) (c : String) : c ∉ rangesOf slot ps := by
  intro hc
  obtain ⟨p, hp, rfl, _⟩ := mem_rangesOf.1 hc
  exact h (List.mem_map_of_mem hp)

/-- The rule of a slot holds all its address ranges. -/
theorem rangesOf_of_distinct {before after : List IngressRule} {p : IngressRule}
    (h : DistinctSlots (before ++ p :: after)) :
    rangesOf p.slot (before ++ p :: after) = p.cidrs := by
  refine CidrSet.ext fun c => mem_rangesOf.trans ⟨?_, fun hc => ⟨p, by simp, rfl, hc⟩⟩
  rintro ⟨q, hq, hslot, hc⟩
  rwa [List.inj_on_of_nodup_map h hq (by simp) hslot] at hc

/-! ### Requests -/

section Requests

variable {r p : IngressRule} {before after ps : List IngressRule}

/-- A permission is added past the rules of other slots. -/
theorem authorizeIn_append (h : r.slot ∉ before.map IngressRule.slot) (ps : List IngressRule) :
    authorizeIn r (before ++ ps) = (authorizeIn r ps).map (before ++ ·) := by
  induction before with
  | nil => rw [List.nil_append]; cases authorizeIn r ps <;> rfl
  | cons q before ih =>
      rw [List.map_cons, List.mem_cons, not_or] at h
      have hq : ¬ q.sameSlot r = true := fun hs => h.1 (IngressRule.sameSlot_iff.1 hs).symm
      rw [List.cons_append, authorizeIn, if_neg hq, ih h.2]
      cases authorizeIn r ps <;> rfl

/-- A permission of a new slot is put at the end. -/
theorem authorizeIn_of_absent (h : r.slot ∉ ps.map IngressRule.slot) :
    authorizeIn r ps = .ok (ps ++ [r]) := by
  have happ := authorizeIn_append h []
  rwa [List.append_nil] at happ

/-- A permission of a slot with rules is joined to the first of them. -/
theorem authorizeIn_of_split (h : r.slot ∉ before.map IngressRule.slot) (hp : p.slot = r.slot) :
    authorizeIn r (before ++ p :: after) =
      match r.cidrs.firstIn? p.cidrs with
      | some c => .error (.duplicatePermission (c ++ " " ++ r.rangeText))
      | none => .ok (before ++ { p with cidrs := p.cidrs.union r.cidrs } :: after) := by
  rw [authorizeIn_append h, authorizeIn, if_pos (IngressRule.sameSlot_iff.2 hp)]
  cases r.cidrs.firstIn? p.cidrs <;> rfl

/-- A permission is removed past the rules of other slots. -/
theorem revokeIn_append (h : r.slot ∉ before.map IngressRule.slot) (ps : List IngressRule) :
    revokeIn r (before ++ ps) = (revokeIn r ps).map (before ++ ·) := by
  induction before with
  | nil => rw [List.nil_append]; cases revokeIn r ps <;> rfl
  | cons q before ih =>
      rw [List.map_cons, List.mem_cons, not_or] at h
      have hq : ¬ q.sameSlot r = true := fun hs => h.1 (IngressRule.sameSlot_iff.1 hs).symm
      rw [List.cons_append, revokeIn, if_neg hq, ih h.2]
      cases revokeIn r ps <;> rfl

/-- A permission of a slot without rules cannot be removed. -/
theorem revokeIn_of_absent (h : r.slot ∉ ps.map IngressRule.slot) :
    revokeIn r ps = .error (.permissionNotFound r.rangeText) := by
  have happ := revokeIn_append h []
  rwa [List.append_nil] at happ

/-- A permission of a slot with rules is taken out of the first of them, which goes when nothing of
it is left. -/
theorem revokeIn_of_split (h : r.slot ∉ before.map IngressRule.slot) (hp : p.slot = r.slot) :
    revokeIn r (before ++ p :: after) =
      if r.cidrs.subset p.cidrs then
        .ok (before ++ if (p.cidrs.diff r.cidrs).isEmpty then after
          else { p with cidrs := p.cidrs.diff r.cidrs } :: after)
      else .error (.permissionNotFound r.rangeText) := by
  rw [revokeIn_append h, revokeIn, if_pos (IngressRule.sameSlot_iff.2 hp)]
  cases r.cidrs.subset p.cidrs <;> rfl

end Requests

/-! ### Changes in either direction -/

namespace IngressChange

/-- A change of a list of permissions. -/
def applyTo (change : IngressChange) (r : IngressRule) (ps : List IngressRule) :
    Except CloudError (List IngressRule) :=
  match change with
  | .authorize => authorizeIn r ps
  | .revoke => revokeIn r ps

/-- A change of a set of address ranges. -/
def on (change : IngressChange) (s t : CidrSet) : CidrSet :=
  match change with
  | .authorize => s.union t
  | .revoke => s.diff t

/-- A set is already as a change asks for it, as far as one address range is concerned. -/
def Settled (change : IngressChange) (s : CidrSet) (c : String) : Prop :=
  match change with
  | .authorize => c ∈ s
  | .revoke => c ∉ s

/-- The refusal of a change that is settled already. -/
def refusal (change : IngressChange) (text : String) : CloudError :=
  match change with
  | .authorize => .duplicatePermission text
  | .revoke => .permissionNotFound text

variable {change : IngressChange}

/-- A change in parts is the change as a whole. -/
theorem on_union (s t u : CidrSet) : change.on (change.on s t) u = change.on s (t.union u) := by
  refine CidrSet.ext fun c => ?_
  cases change with
  | authorize => simp [on, or_assoc]
  | revoke => simp [on, and_assoc]

/-- A change that is settled for all its address ranges changes nothing. -/
theorem on_eq_self {s t : CidrSet} (h : ∀ c ∈ t, change.Settled s c) : change.on s t = s := by
  refine CidrSet.ext fun c => ?_
  cases change with
  | authorize => simpa [on, Settled] using h c
  | revoke => simpa [on] using fun hs ht => h c ht hs

end IngressChange

/-- **A list of permissions after a change of one slot**: the slots are still distinct, and the
address ranges of the one are changed, those of the others are not. -/
structure Changed (change : IngressChange) (slot : Slot) (cidrs : CidrSet)
    (ps ps' : List IngressRule) : Prop where
  distinct : DistinctSlots ps'
  ranges : rangesOf slot ps' = change.on (rangesOf slot ps) cidrs
  others : ∀ other, other ≠ slot → rangesOf other ps' = rangesOf other ps

namespace Changed

variable {change : IngressChange} {slot : Slot} {cidrs cidrs' : CidrSet}
  {ps ps' ps'' : List IngressRule}

/-- A list that is settled for all address ranges is changed by leaving it alone. -/
theorem of_settled (hd : DistinctSlots ps)
    (h : ∀ c ∈ cidrs, change.Settled (rangesOf slot ps) c) : Changed change slot cidrs ps ps :=
  ⟨hd, (IngressChange.on_eq_self h).symm, fun _ _ => rfl⟩

/-- **One change after another** is a change of the union. -/
theorem trans (h : Changed change slot cidrs ps ps') (h' : Changed change slot cidrs' ps' ps'') :
    Changed change slot (cidrs.union cidrs') ps ps'' := by
  refine ⟨h'.distinct, ?_, fun other hne => (h'.others other hne).trans (h.others other hne)⟩
  rw [h'.ranges, h.ranges, IngressChange.on_union]

end Changed

/-- A slot that none of the rules in the middle has is left alone by what happens to them. -/
theorem rangesOf_append_of_absent {slot : Slot} {middle : List IngressRule}
    (before after : List IngressRule) (h : slot ∉ middle.map IngressRule.slot) :
    rangesOf slot (before ++ (middle ++ after)) = rangesOf slot (before ++ after) := by
  have hnone : middle.filter (fun p => decide (p.slot = slot)) = [] := by
    refine List.filter_eq_nil_iff.2 fun p hp hslot => h ?_
    exact List.mem_map.2 ⟨p, hp, of_decide_eq_true hslot⟩
  rw [rangesOf, rangesOf, List.filter_append, List.filter_append, List.filter_append, hnone,
    List.nil_append]

/-- The rules without the one of a slot. -/
theorem rangesOf_remove {before after : List IngressRule} {p : IngressRule} {other : Slot}
    (h : other ≠ p.slot) :
    rangesOf other (before ++ after) = rangesOf other (before ++ p :: after) := by
  rw [← List.singleton_append]
  refine (rangesOf_append_of_absent before after ?_).symm
  simpa using h

/-- The rule of a slot with other address ranges. -/
theorem rangesOf_replace {before after : List IngressRule} {p : IngressRule} (cidrs : CidrSet)
    {other : Slot} (h : other ≠ p.slot) :
    rangesOf other (before ++ { p with cidrs } :: after) =
      rangesOf other (before ++ p :: after) :=
  (rangesOf_remove (p := { p with cidrs }) h).symm.trans (rangesOf_remove h)

theorem distinctSlots_replace {before after : List IngressRule} {p : IngressRule}
    (cidrs : CidrSet) :
    DistinctSlots (before ++ { p with cidrs } :: after) ↔ DistinctSlots (before ++ p :: after) := by
  rw [DistinctSlots, DistinctSlots, List.map_append, List.map_append, List.map_cons, List.map_cons]
  rfl

/-- Putting a permission of a new slot at the end joins its address ranges to its slot. -/
theorem changed_of_absent {r : IngressRule} {ps : List IngressRule} (hd : DistinctSlots ps)
    (hab : r.slot ∉ ps.map IngressRule.slot) :
    Changed .authorize r.slot r.cidrs ps (ps ++ [r]) := by
  have hd' : DistinctSlots (ps ++ [r]) := by
    rw [DistinctSlots, List.map_append]
    refine List.Nodup.append hd (List.nodup_singleton _) ?_
    simpa [List.disjoint_singleton] using hab
  refine ⟨hd', ?_, fun other hne => ?_⟩
  · rw [rangesOf_of_distinct hd']
    refine CidrSet.ext fun c => ?_
    simp [IngressChange.on, not_mem_rangesOf_of_absent hab c]
  · have hr : other ∉ [r].map IngressRule.slot := by simpa using hne
    simpa using rangesOf_append_of_absent ps [] hr

/-- Giving the rule of a slot the changed address ranges changes the slot. -/
theorem changed_replace (change : IngressChange) {cidrs : CidrSet}
    {before after : List IngressRule} {p : IngressRule}
    (hd : DistinctSlots (before ++ p :: after)) :
    Changed change p.slot cidrs (before ++ p :: after)
      (before ++ { p with cidrs := change.on p.cidrs cidrs } :: after) := by
  have hd' := (distinctSlots_replace (change.on p.cidrs cidrs)).2 hd
  refine ⟨hd', ?_, fun other hne => rangesOf_replace _ hne⟩
  rw [rangesOf_of_distinct hd]
  exact rangesOf_of_distinct hd'

/-- Removing the rule of a slot takes away all its address ranges. -/
theorem changed_remove {cidrs : CidrSet} {before after : List IngressRule} {p : IngressRule}
    (hd : DistinctSlots (before ++ p :: after)) (hleft : (p.cidrs.diff cidrs).isEmpty = true) :
    Changed .revoke p.slot cidrs (before ++ p :: after) (before ++ after) := by
  have hsplit : DistinctSlots (before ++ after) ∧
      p.slot ∉ (before ++ after).map IngressRule.slot := by
    rw [DistinctSlots, List.map_append, List.map_cons] at hd
    rw [DistinctSlots, List.map_append]
    exact (List.nodup_cons.1 (List.nodup_middle.1 hd)).symm
  refine ⟨hsplit.1, ?_, fun other hne => rangesOf_remove hne⟩
  rw [rangesOf_of_distinct hd]
  refine CidrSet.ext fun c => ?_
  exact iff_of_false (not_mem_rangesOf_of_absent hsplit.2 c) (CidrSet.isEmpty_iff.1 hleft c)

/-- **When a request is settled, and what it makes of the sets**: it is settled when none of its
address ranges is settled already, and otherwise it is refused. -/
theorem IngressChange.applyTo_cases (change : IngressChange) {r : IngressRule}
    {ps : List IngressRule} (hd : DistinctSlots ps) (hne : r.cidrs.isEmpty = false) :
    ((∀ c ∈ r.cidrs, ¬ change.Settled (rangesOf r.slot ps) c) ∧
      ∃ ps', change.applyTo r ps = .ok ps' ∧ Changed change r.slot r.cidrs ps ps') ∨
    ((∃ c ∈ r.cidrs, change.Settled (rangesOf r.slot ps) c) ∧
      ∃ text, change.applyTo r ps = .error (change.refusal text)) := by
  rcases absent_or_split r.slot ps with hab | ⟨before, p, after, rfl, hbefore, hp⟩
  · have hnot := not_mem_rangesOf_of_absent hab
    cases change with
    | authorize =>
        exact Or.inl ⟨fun c _ => hnot c, _, authorizeIn_of_absent hab, changed_of_absent hd hab⟩
    | revoke =>
        obtain ⟨c, hc⟩ := CidrSet.exists_mem_of_not_isEmpty hne
        exact Or.inr ⟨⟨c, hc, hnot c⟩, _, revokeIn_of_absent hab⟩
  · rw [← hp, rangesOf_of_distinct hd]
    cases change with
    | authorize =>
        simp only [applyTo, authorizeIn_of_split hbefore hp]
        cases hf : r.cidrs.firstIn? p.cidrs with
        | none =>
            have hnot := CidrSet.firstIn?_eq_none.1 hf
            exact Or.inl ⟨hnot, _, rfl, changed_replace .authorize hd⟩
        | some c =>
            obtain ⟨hr, hpc⟩ := CidrSet.exists_of_firstIn? hf
            exact Or.inr ⟨⟨c, hr, hpc⟩, _, rfl⟩
    | revoke =>
        simp only [applyTo, revokeIn_of_split hbefore hp]
        by_cases hsub : r.cidrs.subset p.cidrs = true
        · refine Or.inl ⟨fun c hc hnot => hnot (CidrSet.subset_iff.1 hsub c hc), ?_⟩
          rw [if_pos hsub]
          refine ⟨_, rfl, ?_⟩
          cases hleft : (p.cidrs.diff r.cidrs).isEmpty with
          | true => exact changed_remove hd hleft
          | false => exact changed_replace .revoke hd
        · refine Or.inr ⟨?_, _, if_neg hsub⟩
          rw [CidrSet.subset_iff] at hsub
          obtain ⟨c, hc⟩ := not_forall.1 hsub
          exact ⟨c, Classical.not_imp.1 hc⟩

/-- A rule that a choice of slots leaves out does not matter to it. -/
theorem filter_slot_middle {keep : Slot → Bool} {before after : List IngressRule} {p : IngressRule}
    (h : keep p.slot = false) :
    (before ++ p :: after).filter (fun p => keep p.slot) =
      (before ++ after).filter fun p => keep p.slot := by
  rw [List.filter_append, List.filter_append, List.filter_cons_of_neg (by simp [h])]

/-- **The frame of a request**: it leaves the rules of all other slots where they are. -/
theorem IngressChange.applyTo_filter {change : IngressChange} {r : IngressRule}
    {ps ps' : List IngressRule} (h : change.applyTo r ps = .ok ps') {keep : Slot → Bool}
    (hkeep : keep r.slot = false) :
    ps'.filter (fun p => keep p.slot) = ps.filter fun p => keep p.slot := by
  rcases absent_or_split r.slot ps with hab | ⟨before, p, after, rfl, hbefore, hp⟩
  · cases change with
    | authorize =>
        rw [applyTo, authorizeIn_of_absent hab] at h
        obtain rfl := Except.ok.inj h
        rw [filter_slot_middle hkeep, List.append_nil]
    | revoke =>
        rw [applyTo, revokeIn_of_absent hab] at h
        cases h
  · rw [← hp] at hkeep
    have hreplaced : ∀ cidrs, (before ++ { p with cidrs } :: after).filter (fun p => keep p.slot) =
        (before ++ p :: after).filter fun p => keep p.slot := fun cidrs => by
      rw [filter_slot_middle hkeep]
      exact filter_slot_middle hkeep
    cases change with
    | authorize =>
        rw [applyTo, authorizeIn_of_split hbefore hp] at h
        split at h
        · cases h
        · obtain rfl := Except.ok.inj h
          exact hreplaced _
    | revoke =>
        rw [applyTo, revokeIn_of_split hbefore hp] at h
        split at h
        · obtain rfl := Except.ok.inj h
          split
          · exact (filter_slot_middle hkeep).symm
          · exact hreplaced _
        · cases h

end NodeSidecar
