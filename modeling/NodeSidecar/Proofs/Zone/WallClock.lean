/-
**What a wall clock shows.**

The seconds that belong to a wall clock time are listed by going through the spans of a zone, each
with its offset.  They are the seconds at which the clock shows that time, in ascending order, so
that a time belongs to exactly one second when the clock shows it then and at no other second.

A clock that is put back shows times twice, and one that is put forward leaves times out.  But as
the spans of a zone are in order on the wall clock too, a time that belongs to exactly one second
parts all others: earlier seconds show earlier times, and later seconds later ones.

In a zone whose offset has been the same since 1970, every later time belongs to exactly one second,
which lies one offset before it.

Main definitions:

* `Zone.WithinADay` — a zone whose offsets are all shorter than a day;
* `Zone.ConstantSince1970` — a zone with one offset since its clock first showed 1970;
* `Zone.seasonal` — a zone whose clock was put forward and back again.

Main results:

* `Zone.mem_secondsOf`, `Zone.secondsOf_pairwise` — the seconds of a wall clock time;
* `Zone.unique?_eq_some_iff` — the times that belong to exactly one second;
* `Zone.wallClock_lt_iff` — **a time that belongs to exactly one second parts all seconds**;
* `Zone.hasDay_iff` — the dates that occur;
* `Zone.ConstantSince1970.unique?_eq` — the second of a time in a zone with one offset.
-/

import NodeSidecar.Zone.Basic
import Mathlib.Data.List.Perm.Basic

set_option autoImplicit false

namespace NodeSidecar

namespace Zone

variable {z : Zone} {l u v : Int}

/-! ### The seconds of a wall clock time -/

theorem inOrder_tail {before : Int} {a : Change} {cs : List Change}
    (h : inOrder before (a :: cs) = true) : inOrder a.offset cs = true := by
  cases cs with
  | nil => rfl
  | cons b rest =>
      simp only [inOrder, Bool.and_eq_true] at h
      exact h.2

theorem lt_of_inOrder {before : Int} {a b : Change} {cs : List Change}
    (h : inOrder before (a :: b :: cs) = true) : a.second < b.second := by
  simp only [inOrder, Bool.and_eq_true, decide_eq_true_eq] at h
  exact h.1.1.1

/-- A second is listed when the clock shows the time then, provided it belongs to the current span
or to a later one. -/
theorem mem_secondsFrom {start before : Int} {cs : List Change} (h : inOrder before cs = true) :
    u ∈ secondsFrom l start before cs ↔
      u + offsetFrom u before cs = l ∧ (start ≤ u ∨ ∃ c ∈ cs.head?, c.second ≤ u) := by
  induction cs generalizing start before with
  | nil =>
      simp only [secondsFrom, offsetFrom, List.head?_nil]
      split <;> simp <;> omega
  | cons c cs ih =>
      have hrest : u ∈ secondsFrom l c.second c.offset cs ↔ _ := ih (inOrder_tail h)
      -- the spans behind the next change begin after it
      have hlater : (c.second ≤ u ∨ ∃ d ∈ cs.head?, d.second ≤ u) ↔ c.second ≤ u := by
        refine ⟨?_, .inl⟩
        rintro (hc | ⟨d, hd, hle⟩)
        · exact hc
        · obtain ⟨rest, rfl⟩ := List.head?_eq_some_iff.1 hd
          have := lt_of_inOrder h
          omega
      rw [hlater] at hrest
      have hhead : (∃ d ∈ (c :: cs).head?, d.second ≤ u) ↔ c.second ≤ u := by simp
      rw [hhead]
      simp only [secondsFrom, offsetFrom]
      by_cases hu : u < c.second
      · simp only [hu, ↓reduceIte]
        split
        · rw [List.mem_cons, hrest]
          omega
        · rw [hrest]
          omega
      · simp only [hu, ↓reduceIte]
        split
        · rw [List.mem_cons, hrest]
          omega
        · rw [hrest]
          omega

/-- **The seconds of a wall clock time are those at which the clock shows it.** -/
theorem mem_secondsOf : u ∈ z.secondsOf l ↔ z.wallClock u = l := by
  rw [secondsOf, mem_secondsFrom z.ordered, wallClock, offsetAt]
  refine ⟨And.left, fun h => ⟨h, ?_⟩⟩
  cases hcs : z.changes with
  | nil =>
      rw [hcs] at h
      simp only [offsetFrom] at h
      exact .inl (by omega)
  | cons c cs =>
      rw [hcs] at h
      by_cases hu : u < c.second
      · simp only [offsetFrom, hu, ↓reduceIte] at h
        exact .inl (by omega)
      · exact .inr ⟨c, rfl, Int.not_lt.1 hu⟩

theorem secondsFrom_pairwise {start before : Int} {cs : List Change}
    (h : inOrder before cs = true) : (secondsFrom l start before cs).Pairwise (· < ·) := by
  induction cs generalizing start before with
  | nil =>
      simp only [secondsFrom]
      split <;> simp
  | cons c cs ih =>
      have hrest : (secondsFrom l c.second c.offset cs).Pairwise (· < ·) := ih (inOrder_tail h)
      simp only [secondsFrom]
      split
      · next hin =>
        refine List.pairwise_cons.2 ⟨fun v hv => ?_, hrest⟩
        rcases ((mem_secondsFrom (inOrder_tail h)).1 hv).2 with hc | ⟨d, hd, hle⟩
        · omega
        · obtain ⟨rest, rfl⟩ := List.head?_eq_some_iff.1 hd
          have := lt_of_inOrder h
          omega
      · exact hrest

/-- The seconds of a wall clock time ascend. -/
theorem secondsOf_pairwise (z : Zone) (l : Int) : (z.secondsOf l).Pairwise (· < ·) :=
  secondsFrom_pairwise z.ordered

theorem unique?_eq_some : z.unique? l = some u ↔ z.secondsOf l = [u] := by
  unfold unique?
  split
  · next w hw => simp [hw]
  · next hne => exact iff_of_false (by simp) (hne u)

/-- **A wall clock time belongs to exactly one second** when the clock shows it at that second and
at no other. -/
theorem unique?_eq_some_iff : z.unique? l = some u ↔ ∀ v, z.wallClock v = l ↔ v = u := by
  rw [unique?_eq_some]
  constructor
  · intro h v
    rw [← mem_secondsOf, h, List.mem_singleton]
  · intro h
    have hnodup : (z.secondsOf l).Nodup := (secondsOf_pairwise z l).imp Int.ne_of_lt
    refine List.perm_singleton.1 ((List.perm_ext_iff_of_nodup hnodup (by simp)).2 fun v => ?_)
    rw [mem_secondsOf, h v, List.mem_singleton]

/-- A date occurs when the clock shows its first or its last second. -/
theorem hasDay_iff {day : Int} : z.hasDay day = true ↔
    (∃ u, z.wallClock u = day * 86400) ∨ ∃ u, z.wallClock u = day * 86400 + 86399 := by
  have hshown : ∀ l, (!(z.secondsOf l).isEmpty) = true ↔ ∃ u, z.wallClock u = l := by
    intro l
    rw [Bool.not_eq_true', List.isEmpty_eq_false_iff_exists_mem]
    simp only [mem_secondsOf]
  rw [hasDay, Bool.or_eq_true, hshown, hshown]

/-! ### Times that belong to one second -/

theorem wallClock_of_unique? (h : z.unique? l = some u) : z.wallClock u = l :=
  (unique?_eq_some_iff.1 h u).2 rfl

theorem spans_of_inOrder {before : Int} {a b : Change} {cs : List Change}
    (h : inOrder before (a :: b :: cs) = true) :
    a.second + before ≤ b.second + a.offset ∧ a.second + a.offset ≤ b.second + b.offset := by
  simp only [inOrder, Bool.and_eq_true, decide_eq_true_eq] at h
  exact ⟨h.1.1.2, h.1.2⟩

/-- From a change on the clock shows nothing earlier than what it shows at the change. -/
theorem start_le_wallClock {before : Int} {c : Change} {cs : List Change}
    (h : inOrder before (c :: cs) = true) (hv : c.second ≤ v) :
    c.second + c.offset ≤ v + offsetFrom v c.offset cs := by
  induction cs generalizing before c with
  | nil =>
      rw [offsetFrom]
      omega
  | cons d cs ih =>
      rw [offsetFrom]
      split
      · omega
      · next hd =>
        have hlater := ih (inOrder_tail h) (Int.not_lt.1 hd)
        have hspans := spans_of_inOrder h
        omega

/-- The span of `v` shows each time, from that of `v` on, that lies before the end of an earlier
span. -/
theorem shown_in_span {before : Int} {c : Change} {cs : List Change}
    (h : inOrder before (c :: cs) = true) (hv : c.second ≤ v) (hl : l < c.second + before)
    (hle : v + offsetFrom v c.offset cs ≤ l) :
    offsetFrom (l - offsetFrom v c.offset cs) c.offset cs = offsetFrom v c.offset cs := by
  induction cs generalizing before c with
  | nil => rfl
  | cons d cs ih =>
      have hspans := spans_of_inOrder h
      by_cases hd : v < d.second
      · have hoffset : offsetFrom v c.offset (d :: cs) = c.offset := by rw [offsetFrom, if_pos hd]
        rw [hoffset, offsetFrom, if_pos (by omega)]
      · have hoffset : offsetFrom v c.offset (d :: cs) = offsetFrom v d.offset cs := by
          rw [offsetFrom, if_neg hd]
        rw [hoffset] at hle ⊢
        rw [offsetFrom, if_neg (by omega)]
        exact ih (inOrder_tail h) (Int.not_lt.1 hd) (by omega) hle

/-- A clock that at `v` is not ahead of what it showed at an earlier `u` shows the time of `u` at
`v` or later. -/
theorem exists_shown_later {before : Int} {cs : List Change} (h : inOrder before cs = true)
    (huv : u ≤ v) (hle : v + offsetFrom v before cs ≤ u + offsetFrom u before cs) :
    ∃ w, v ≤ w ∧ w + offsetFrom w before cs = u + offsetFrom u before cs := by
  induction cs generalizing before with
  | nil => exact ⟨u, by simp only [offsetFrom] at hle; omega, rfl⟩
  | cons c cs ih =>
      by_cases hu : u < c.second
      · have hoffset : offsetFrom u before (c :: cs) = before := by rw [offsetFrom, if_pos hu]
        rw [hoffset] at hle ⊢
        by_cases hv : v < c.second
        · rw [offsetFrom, if_pos hv] at hle
          exact ⟨u, by omega, by rw [hoffset]⟩
        · rw [offsetFrom, if_neg hv] at hle
          have hspan := shown_in_span h (Int.not_lt.1 hv) (l := u + before) (by omega) hle
          refine ⟨u + before - offsetFrom v c.offset cs, by omega, ?_⟩
          rw [offsetFrom, if_neg (by omega), hspan]
          omega
      · have hv : ¬ v < c.second := by omega
        rw [offsetFrom, offsetFrom, if_neg hu, if_neg hv] at hle
        obtain ⟨w, hw, hshown⟩ := ih (inOrder_tail h) hle
        refine ⟨w, hw, ?_⟩
        rw [offsetFrom, offsetFrom, if_neg hu, if_neg (by omega)]
        exact hshown

/-- Such a clock has shown the time of `v` at `u` or earlier. -/
theorem exists_shown_earlier {before : Int} {cs : List Change} (h : inOrder before cs = true)
    (huv : u ≤ v) (hle : v + offsetFrom v before cs ≤ u + offsetFrom u before cs) :
    ∃ w, w ≤ u ∧ w + offsetFrom w before cs = v + offsetFrom v before cs := by
  induction cs generalizing before with
  | nil => exact ⟨v, by simp only [offsetFrom] at hle; omega, rfl⟩
  | cons c cs ih =>
      by_cases hu : u < c.second
      · have hoffset : offsetFrom u before (c :: cs) = before := by rw [offsetFrom, if_pos hu]
        rw [hoffset] at hle
        generalize v + offsetFrom v before (c :: cs) = l at hle ⊢
        refine ⟨l - before, by omega, ?_⟩
        rw [offsetFrom, if_pos (by omega)]
        omega
      · have hv : ¬ v < c.second := by omega
        rw [offsetFrom, offsetFrom, if_neg hu, if_neg hv] at hle
        obtain ⟨w, hw, hshown⟩ := ih (inOrder_tail h) hle
        have hstart := start_le_wallClock h (Int.not_lt.1 hv)
        -- before the change the rest of the history has the offset of its first span
        have hin : ¬ w < c.second := by
          intro hlt
          have hoffset : offsetFrom w c.offset cs = c.offset := by
            cases cs with
            | nil => rfl
            | cons d cs => rw [offsetFrom, if_pos (by have := lt_of_inOrder h; omega)]
          omega
        refine ⟨w, hw, ?_⟩
        rw [offsetFrom, offsetFrom, if_neg hv, if_neg hin]
        exact hshown

/-- **A time that belongs to exactly one second parts all seconds**: before it the clock shows
earlier times, and behind it later ones. -/
theorem wallClock_lt_iff (h : z.unique? l = some u) : z.wallClock v < l ↔ v < u := by
  have hunique := unique?_eq_some_iff.1 h
  have hu := wallClock_of_unique? h
  constructor
  · intro hlt
    by_contra hle
    obtain ⟨w, hw, hshown⟩ := exists_shown_later z.ordered (Int.not_lt.1 hle)
      (show z.wallClock v ≤ z.wallClock u by omega)
    have hself := (hunique w).1 (Eq.trans hshown hu)
    obtain rfl : v = u := by omega
    omega
  · intro hlt
    by_contra hle
    obtain ⟨w, hw, hshown⟩ := exists_shown_earlier z.ordered (Int.le_of_lt hlt)
      (show z.wallClock u ≤ z.wallClock v by omega)
    have hself := (hunique w).1 (Eq.trans hshown hu)
    omega

theorem le_wallClock_iff (h : z.unique? l = some u) : l ≤ z.wallClock v ↔ u ≤ v := by
  rw [← Int.not_lt, ← Int.not_lt, wallClock_lt_iff h]

theorem wallClock_le_iff (h : z.unique? l = some u) : z.wallClock v ≤ l ↔ v ≤ u := by
  rw [Int.le_iff_lt_or_eq, wallClock_lt_iff h, unique?_eq_some_iff.1 h v, Int.le_iff_lt_or_eq]

/-! ### Offsets -/

/-- A clock is never a whole day or more away from UTC. -/
def WithinADay (z : Zone) : Prop :=
  ∀ o ∈ z.initial :: z.changes.map Change.offset, -86400 < o ∧ o < 86400

instance (z : Zone) : Decidable z.WithinADay := by
  unfold WithinADay
  infer_instance

theorem offsetFrom_mem (u before : Int) (cs : List Change) :
    offsetFrom u before cs ∈ before :: cs.map Change.offset := by
  induction cs generalizing before with
  | nil => exact List.mem_singleton_self before
  | cons c cs ih =>
      rw [offsetFrom]
      split
      · exact List.mem_cons_self
      · exact List.mem_cons_of_mem _ (ih c.offset)

theorem WithinADay.offsetAt (hz : z.WithinADay) (u : Int) :
    -86400 < z.offsetAt u ∧ z.offsetAt u < 86400 :=
  hz _ (offsetFrom_mem u z.initial z.changes)

/-! ### Zones with one offset -/

/-- A zone has had one offset since 1970 when it is in force from the first second on at which the
clock shows 1970 or later. -/
def ConstantSince1970 (z : Zone) (offset : Int) : Prop :=
  ∀ u v, v ≤ u → 0 ≤ z.wallClock v → z.offsetAt u = offset

theorem constantSince1970_fixed (name : String) (offset : Int) :
    (fixed name offset).ConstantSince1970 offset := fun _ _ _ _ => rfl

namespace ConstantSince1970

variable {offset : Int}

theorem wallClock_eq (h : z.ConstantSince1970 offset) (hle : v ≤ u) (hv : 0 ≤ z.wallClock v) :
    z.wallClock u = u + offset := by
  rw [wallClock, h u v hle hv]

/-- **A time in a zone with one offset belongs to exactly one second.** -/
theorem unique?_eq (h : z.ConstantSince1970 offset) (hv : 0 ≤ z.wallClock v)
    (hl : z.wallClock v ≤ l) : z.unique? l = some (l - offset) := by
  rw [unique?_eq_some_iff]
  have hself := h.wallClock_eq (Int.le_refl v) hv
  intro w
  constructor
  · intro hw
    have hshown := h.wallClock_eq (Int.le_refl w) (by omega)
    omega
  · rintro rfl
    rw [h.wallClock_eq (by omega) hv]
    omega

theorem hasDay (h : z.ConstantSince1970 offset) (hv : 0 ≤ z.wallClock v) {day : Int}
    (hday : z.wallClock v / 86400 ≤ day) : z.hasDay day = true := by
  refine hasDay_iff.2 (.inr ⟨day * 86400 + 86399 - offset, ?_⟩)
  exact (unique?_eq_some_iff.1 (h.unique?_eq hv (by omega)) _).2 rfl

end ConstantSince1970

/-! ### A zone with two changes -/

/-- A zone whose clock was put forward in March 2024 and back from three to two in October. -/
def seasonal : Zone :=
  ⟨"Seasonal", 3600, [⟨1711846800, 7200⟩, ⟨1729990800, 3600⟩], by decide⟩

theorem hasDay_seasonal (day : Int) : seasonal.hasDay day = true := by
  have hshown (u : Int) : seasonal.wallClock u = if u < 1711846800 then u + 3600
      else if u < 1729990800 then u + 7200 else u + 3600 := by
    simp only [wallClock, offsetAt, seasonal, offsetFrom]
    split_ifs <;> rfl
  refine hasDay_iff.2 (.inl ?_)
  rcases Int.lt_or_le (day * 86400) 1711850400 with hlt | hle
  · exact ⟨day * 86400 - 3600, by rw [hshown, if_pos (by omega)]; omega⟩
  · rcases Int.lt_or_le (day * 86400) 1729994400 with hlt | hle'
    · refine ⟨day * 86400 - 7200, ?_⟩
      rw [hshown, if_neg (by omega), if_pos (by omega)]
      omega
    · refine ⟨day * 86400 - 3600, ?_⟩
      rw [hshown, if_neg (by omega), if_neg (by omega)]
      omega

end Zone

end NodeSidecar
