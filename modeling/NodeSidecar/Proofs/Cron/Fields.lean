/-
**The ordinals that a field denotes.**

Each term of a field stands for an arithmetic progression: a span for all ordinals between its
bounds, a name for one ordinal, and a span with a step for every so-many-th ordinal from its lower
bound on.  A field denotes what one of its terms stands for.  The ordinals computed for a field are
those that it denotes, in ascending order, and all of them belong to the unit.

Main definitions:

* `Cron.Progression` — an arithmetic progression between two bounds;
* `Cron.Span.bounds?`, `Cron.Term.progression?` — what a span and a term stand for;
* `Cron.Denotes` — the ordinals of a field.

Main results:

* `Cron.mem_everyFrom` — taking every so-many-th element of a range gives a progression;
* `Cron.Term.exists_progression` — the ordinals of a term;
* `Cron.mem_fieldOrdinals` — the ordinals of a field are those that it denotes.
-/

import NodeSidecar.Cron.Field

set_option autoImplicit false

namespace NodeSidecar.Cron

/-! ### What a field denotes -/

/-- The ordinals from `first` on, none beyond `last`, at a distance of `step`. -/
structure Progression where
  first : Nat
  last : Nat
  step : Nat

/-- An ordinal belongs to a progression. -/
def Progression.Has (p : Progression) (n : Nat) : Prop :=
  p.first ≤ n ∧ n ≤ p.last ∧ p.step ∣ n - p.first

/-- The least and the greatest ordinal of a span. -/
def Span.bounds? (u : Unit) : Span → Option (Nat × Nat)
  | .all => some (u.least, u.greatest)
  | .point n => some (n, n)
  | .range a b => some (a, b)
  | .named a b => do return (← u.named? a, ← u.named? b)

/-- The progression that a term stands for. -/
def Term.progression? (u : Unit) : Term → Option Progression
  | .span s => (s.bounds? u).map fun b => ⟨b.1, b.2, 1⟩
  | .every (.point n) step => some ⟨n, u.greatest, step⟩
  | .every s step => (s.bounds? u).map fun b => ⟨b.1, b.2, step⟩
  | .name n => (u.named? n).map fun k => ⟨k, k, 1⟩

/-- **The ordinals that a field denotes** are those of the progressions of its terms. -/
def Denotes (u : Unit) (terms : List Term) (n : Nat) : Prop :=
  ∃ t ∈ terms, ∃ p, t.progression? u = some p ∧ p.Has n

/-! ### The ordinals of a term -/

/-- Every `step`-th element of a range, once `wait` elements have been passed over. -/
theorem mem_everyFrom {step : Nat} (hstep : 0 < step) {wait a k n : Nat} :
    n ∈ everyFrom step wait (List.range' a k) ↔
      a + wait ≤ n ∧ n < a + k ∧ step ∣ n - (a + wait) := by
  induction k generalizing wait a with
  | zero =>
      simp only [List.range'_zero, everyFrom, List.not_mem_nil, false_iff]
      omega
  | succ k ih =>
      rw [List.range'_succ]
      cases wait with
      | succ wait =>
          rw [everyFrom, ih, Nat.add_right_comm a 1 wait]
          refine and_congr Iff.rfl (and_congr_left fun _ => ?_)
          omega
      | zero =>
          -- the next element taken is `step` behind the first one of the range
          have hnext : a + 1 + (step - 1) = a + step := by omega
          rw [everyFrom, List.mem_cons, ih, Nat.add_zero, hnext]
          constructor
          · rintro (rfl | ⟨h₁, h₂, h₃⟩)
            · exact ⟨Nat.le_refl n, by omega, by simp⟩
            · have hsum : n - a = n - (a + step) + step := by omega
              exact ⟨by omega, by omega, hsum ▸ Nat.dvd_add h₃ (Nat.dvd_refl step)⟩
          · rintro ⟨h₁, h₂, h₃⟩
            rcases Nat.eq_or_lt_of_le h₁ with rfl | hlt
            · exact .inl rfl
            · have hle : step ≤ n - a := Nat.le_of_dvd (by omega) h₃
              refine .inr ⟨by omega, by omega, ?_⟩
              rw [← Nat.sub_sub]
              exact Nat.dvd_sub h₃ (Nat.dvd_refl step)

theorem Progression.has_iff_mem_everyFrom {a b step : Nat} (hstep : 0 < step) {n : Nat} :
    Progression.Has ⟨a, b, step⟩ n ↔ n ∈ everyFrom step 0 (Unit.between a b) := by
  rw [Unit.between, mem_everyFrom hstep, Nat.add_zero]
  refine and_congr_right fun (hn : a ≤ n) => and_congr_left fun _ => ?_
  show n ≤ b ↔ n < a + (b + 1 - a)
  omega

theorem everyFrom_subset {step : Nat} {wait n : Nat} {ns : List Nat}
    (h : n ∈ everyFrom step wait ns) : n ∈ ns := by
  fun_induction everyFrom step wait ns with
  | case1 => exact h
  | case2 m ns ih =>
      rcases List.mem_cons.1 h with rfl | h
      · exact List.mem_cons_self
      · exact List.mem_cons_of_mem _ (ih h)
  | case3 wait m ns ih => exact List.mem_cons_of_mem _ (ih h)

/-- The names of a unit stand for ordinals of the unit. -/
theorem Unit.holds_of_named {u : Unit} {name : List Char} {n : Nat} (h : u.named? name = some n) :
    u.holds n = true := by
  have hlookup : ∀ {names : List (String × Nat)} {key : String},
      names.lookup key = some n → (key, n) ∈ names := by
    intro names key hkey
    obtain ⟨l₁, l₂, rfl, -⟩ := List.lookup_eq_some_iff.1 hkey
    simp
  cases u <;> simp only [named?, reduceCtorEq] at h
  · have hall : ∀ e ∈ monthNames, Unit.month.holds e.2 = true := by decide
    exact hall _ (hlookup h)
  · have hall : ∀ e ∈ weekdayNames, Unit.weekday.holds e.2 = true := by decide
    exact hall _ (hlookup h)

theorem rangeOrdinals?_eq_some {u : Unit} {a b : Nat} {ns : List Nat}
    (h : rangeOrdinals? u a b = some ns) :
    ns = Unit.between a b ∧ u.holds a = true ∧ u.holds b = true := by
  unfold rangeOrdinals? at h
  split at h
  · next hcond =>
    simp only [Bool.and_eq_true] at hcond
    exact ⟨(Option.some.inj h).symm, hcond.1.1, hcond.1.2⟩
  · cases h

/-- The ordinals of a span lie between its bounds, and in the unit unless it is a point. -/
theorem Span.ordinals?_eq_some {u : Unit} {s : Span} {ns : List Nat} (h : s.ordinals? u = some ns) :
    ∃ a b, s.bounds? u = some (a, b) ∧ ns = Unit.between a b ∧
      ((∃ k, s = .point k) ∨ u.holds a = true ∧ u.holds b = true) := by
  cases s with
  | all =>
      refine ⟨u.least, u.greatest, rfl, (Option.some.inj h).symm, .inr ?_⟩
      cases u <;> exact ⟨rfl, rfl⟩
  | point k =>
      refine ⟨k, k, rfl, ?_, .inl ⟨k, rfl⟩⟩
      rw [← Option.some.inj h]
      simp [Unit.between]
  | range a b =>
      obtain ⟨hns, ha, hb⟩ := rangeOrdinals?_eq_some h
      exact ⟨a, b, rfl, hns, .inr ⟨ha, hb⟩⟩
  | named x y =>
      simp only [Span.ordinals?, bind, Option.bind_eq_some_iff] at h
      obtain ⟨a, hx, b, hy, h⟩ := h
      obtain ⟨hns, ha, hb⟩ := rangeOrdinals?_eq_some h
      refine ⟨a, b, ?_, hns, .inr ⟨ha, hb⟩⟩
      simp [Span.bounds?, hx, hy]

theorem Unit.holds_of_between {u : Unit} {a b n : Nat} (ha : u.holds a = true)
    (hb : u.holds b = true) (h₁ : a ≤ n) (h₂ : n ≤ b) : u.holds n = true := by
  simp only [holds, Bool.and_eq_true, decide_eq_true_eq] at *
  omega

/-- The ordinals of a span with a step that is not zero. -/
theorem Term.ordinals?_every {u : Unit} {s : Span} {step : Nat} {ns : List Nat}
    (h : Term.ordinals? u (.every s step) = some ns) :
    ∃ a b, Term.progression? u (.every s step) = some ⟨a, b, step⟩ ∧ 0 < step ∧
      u.holds a = true ∧ u.holds b = true ∧ ns = everyFrom step 0 (Unit.between a b) := by
  cases step with
  | zero => cases s <;> cases h
  | succ step =>
      -- a point with a step goes on to the end of the unit, where other spans keep their bounds
      by_cases hpoint : ∃ k, s = .point k
      · obtain ⟨k, rfl⟩ := hpoint
        simp only [Term.ordinals?] at h
        split at h
        · next hk =>
          refine ⟨k, u.greatest, rfl, Nat.succ_pos step, hk, ?_, (Option.some.inj h).symm⟩
          cases u <;> rfl
        · cases h
      · have hordinals : Term.ordinals? u (.every s (step + 1)) =
            (s.ordinals? u).map (everyFrom (step + 1) 0) := by
          cases s with
          | point k => exact absurd ⟨k, rfl⟩ hpoint
          | _ => rfl
        have hprogression : Term.progression? u (.every s (step + 1)) =
            (s.bounds? u).map fun b => ⟨b.1, b.2, step + 1⟩ := by
          cases s with
          | point k => exact absurd ⟨k, rfl⟩ hpoint
          | _ => rfl
        rw [hordinals, Option.map_eq_some_iff] at h
        obtain ⟨ms, hms, rfl⟩ := h
        obtain ⟨a, b, hbounds, rfl, hk | ⟨ha, hb⟩⟩ := Span.ordinals?_eq_some hms
        · exact absurd hk hpoint
        · exact ⟨a, b, by rw [hprogression, hbounds]; rfl, Nat.succ_pos step, ha, hb, rfl⟩

/-- **The ordinals of a term are those of its progression, and belong to the unit.** -/
theorem Term.exists_progression {u : Unit} {t : Term} {ns : List Nat}
    (h : t.ordinals? u = some ns) :
    ∃ p, t.progression? u = some p ∧ (∀ n, n ∈ ns ↔ p.Has n) ∧ ∀ n ∈ ns, u.holds n = true := by
  cases t with
  | span s =>
      simp only [Term.ordinals?, bind, Option.bind_eq_some_iff] at h
      obtain ⟨ms, hms, h⟩ := h
      split at h
      · next hall =>
        obtain rfl := Option.some.inj h
        obtain ⟨a, b, hbounds, rfl, -⟩ := Span.ordinals?_eq_some hms
        refine ⟨⟨a, b, 1⟩, by simp [Term.progression?, hbounds], fun n => ?_, ?_⟩
        · simp [Progression.Has]
        · exact List.all_eq_true.1 hall
      · cases h
  | every s step =>
      obtain ⟨a, b, hp, hstep, ha, hb, rfl⟩ := Term.ordinals?_every h
      refine ⟨_, hp, fun n => (Progression.has_iff_mem_everyFrom hstep).symm, fun n hn => ?_⟩
      obtain ⟨h₁, h₂⟩ := Unit.mem_between.1 (everyFrom_subset hn)
      exact Unit.holds_of_between ha hb h₁ h₂
  | name w =>
      simp only [Term.ordinals?, Option.map_eq_some_iff] at h
      obtain ⟨k, hk, rfl⟩ := h
      refine ⟨⟨k, k, 1⟩, by simp [Term.progression?, hk], fun n => ?_, ?_⟩
      · simp only [List.mem_singleton, Progression.Has, Nat.one_dvd, and_true]
        omega
      · rintro n hn
        rw [List.mem_singleton.1 hn]
        exact Unit.holds_of_named hk

/-! ### The ordinals of a field -/

/-- The sets of the terms together hold what the terms stand for. -/
theorem mem_sets {u : Unit} {terms : List Term} {sets : List (List Nat)}
    (h : terms.mapM (Term.ordinals? u) = some sets) {n : Nat} :
    (sets.any (·.contains n) = true ↔ Denotes u terms n) ∧
      (Denotes u terms n → u.holds n = true) := by
  induction terms generalizing sets with
  | nil =>
      obtain rfl : [] = sets := Option.some.inj h
      simp [Denotes]
  | cons t ts ih =>
      simp only [List.mapM_cons, bind, Option.bind_eq_some_iff, pure, Option.some.injEq] at h
      obtain ⟨ns, hns, rest, hrest, rfl⟩ := h
      obtain ⟨p, hp, hmem, hholds⟩ := Term.exists_progression hns
      obtain ⟨hany, hall⟩ := ih hrest
      have hhead : Denotes u (t :: ts) n ↔ n ∈ ns ∨ Denotes u ts n := by
        simp [Denotes, hp, hmem]
      rw [hhead]
      refine ⟨?_, fun h => h.elim (hholds n) hall⟩
      rw [List.any_cons, Bool.or_eq_true, hany, List.contains_iff_mem]

/-- **The ordinals of a field are those that it denotes.** -/
theorem mem_fieldOrdinals {u : Unit} {terms : List Term} {ns : List Nat}
    (h : fieldOrdinals? u terms = some ns) {n : Nat} : n ∈ ns ↔ Denotes u terms n := by
  simp only [fieldOrdinals?, bind, Option.bind_eq_some_iff, pure, Option.some.injEq] at h
  obtain ⟨sets, hsets, rfl⟩ := h
  obtain ⟨hany, hholds⟩ := mem_sets hsets (n := n)
  rw [List.mem_filter, hany, Unit.mem_ordinals]
  exact ⟨And.right, fun hn => ⟨hholds hn, hn⟩⟩

/-- The ordinals of a field ascend and belong to the unit. -/
theorem fieldOrdinals_ascend {u : Unit} {terms : List Term} {ns : List Nat}
    (h : fieldOrdinals? u terms = some ns) :
    ns.Pairwise (· < ·) ∧ ∀ n ∈ ns, u.holds n = true := by
  simp only [fieldOrdinals?, bind, Option.bind_eq_some_iff, pure, Option.some.injEq] at h
  obtain ⟨sets, -, rfl⟩ := h
  refine ⟨(List.pairwise_lt_range' 1).filter _, fun n hn => ?_⟩
  exact Unit.mem_ordinals.1 (List.mem_filter.1 hn).1

end NodeSidecar.Cron
