/-
**Growths of the ring that run at the same time.**

A growth reads the limits of the ring's group and then sets them, in two requests.  What it sets is
what it has read, grown; so if another growth has set the limits in between, then the growth of that
one is lost, without a failure of either.  This is the only way to lose growth: when all growths are
at their ends, the limits have grown by the sum of their counts if no growth was overtaken by
another one in this way, and by less if one was.

Main definitions:

* `numbered` — a schedule, each turn with the number of turns that its operation had before;
* `Overtaken` — some growth sets the limits although another one did so after it has read them;
* `Growing` — how far a growth is, by the number of turns that it had;
* `Growths` — several growths under way.

Main results:

* `overtaken_concat`, `stale_concat` — one turn more of a schedule;
* `Growing.turn` — **one turn of a growth**;
* `Growths.takeTurn`, `Growths.takeTurns` — turns of several growths;
* `growths_add_up_iff_none_is_overtaken` — **growth is lost if and only if a growth is overtaken**.
-/

import Mathlib.Algebra.BigOperators.Fin
import NodeSidecar.Proofs.Cloud.Limits
import NodeSidecar.Proofs.Membership.Turns

set_option autoImplicit false

namespace NodeSidecar

/-! ### Schedules -/

open List in
/-- A sublist, by its last element. -/
theorem concat_sublist_concat {α : Type} {xs ys : List α} {x y : α} :
    xs ++ [x] <+ ys ++ [y] ↔ xs ++ [x] <+ ys ∨ x = y ∧ xs <+ ys := by
  rw [← reverse_sublist, ← @reverse_sublist _ (xs ++ [x]) ys, ← @reverse_sublist _ xs ys]
  simp only [reverse_append, reverse_singleton, singleton_append]
  exact cons_sublist_cons'

/-- **The turns of a schedule**, each with the number of turns that the same operation had before
it, those that were seen included. -/
def numbered (seen : List Nat) : List Nat → List (Nat × Nat)
  | [] => []
  | i :: schedule => (i, seen.count i) :: numbered (seen ++ [i]) schedule

theorem numbered_concat (seen done : List Nat) (i : Nat) :
    numbered seen (done ++ [i]) = numbered seen done ++ [(i, (seen ++ done).count i)] := by
  induction done generalizing seen with
  | nil => rw [List.append_nil]; rfl
  | cons j done ih => simp [numbered, ih]

/-- The turns of a schedule that an operation has had. -/
theorem mem_numbered {done : List Nat} {i t : Nat} :
    (i, t) ∈ numbered [] done ↔ t < done.count i := by
  induction done using List.reverseRecOn with
  | nil => simp [numbered]
  | append_singleton done j ih =>
      rw [numbered_concat, List.nil_append, List.mem_append, ih, List.mem_singleton,
        List.count_append, List.count_singleton]
      by_cases hij : j = i
      · subst hij
        simp only [Prod.mk.injEq, true_and, beq_self_eq_true, if_true]
        omega
      · simp [Ne.symm hij, hij]

section Schedules

variable (counts : List UInt32)

/-- The turn of a growth that reads the limits, behind the one that opens its client. -/
def readTurn : Nat := 1

/-- The turn that sets them, right behind it. -/
def writeTurn : Nat := 2

/-- The number by which a growth is to grow the limits. -/
def toGrow (i : Nat) : Nat := (counts.getD i 0).toNat

/-- **What a growth has read is out of date**: another growth has set the limits since. -/
def Stale (done : List Nat) (i : Nat) : Prop :=
  ∃ j ≠ i, toGrow counts j ≠ 0 ∧
    [(i, readTurn), (j, writeTurn)].Sublist (numbered [] done)

/-- **A growth is overtaken**: between its turn that reads the limits and its turn that sets them
another one sets them. -/
def Overtaken (schedule : List Nat) : Prop :=
  ∃ i j, j ≠ i ∧ toGrow counts i ≠ 0 ∧ toGrow counts j ≠ 0 ∧
    [(i, readTurn), (j, writeTurn), (i, writeTurn)].Sublist (numbered [] schedule)

/-- The growth that was asked for by those that have set the limits. -/
def written (done : List Nat) : Nat :=
  ∑ i ∈ Finset.range counts.length, if writeTurn < done.count i then toGrow counts i else 0

variable {counts} {done : List Nat} {i j : Nat}

theorem toGrow_of_none (h : counts[i]? = none) : toGrow counts i = 0 := by
  simp [toGrow, h]

theorem toGrow_of_some {n : UInt32} (h : counts[i]? = some n) : toGrow counts i = n.toNat := by
  simp [toGrow, h]

/-- Only what has been read can be out of date. -/
theorem Stale.read (h : Stale counts done i) : readTurn < done.count i := by
  obtain ⟨j, -, -, hsub⟩ := h
  exact mem_numbered.1 (hsub.subset List.mem_cons_self)

/-- **One turn more** makes out of date what others have read, if it sets the limits. -/
theorem stale_concat : Stale counts (done ++ [i]) j ↔
    Stale counts done j ∨
      (i ≠ j ∧ toGrow counts i ≠ 0 ∧ done.count i = writeTurn ∧ readTurn < done.count j) := by
  have hsub (k : Nat) : [(j, readTurn), (k, writeTurn)].Sublist (numbered [] (done ++ [i])) ↔
      [(j, readTurn), (k, writeTurn)].Sublist (numbered [] done) ∨
        (k = i ∧ writeTurn = done.count i) ∧ readTurn < done.count j := by
    rw [numbered_concat, List.nil_append]
    have hconcat := @concat_sublist_concat _ [(j, readTurn)] (numbered [] done) (k, writeTurn)
      (i, done.count i)
    rw [List.singleton_append, List.singleton_sublist, mem_numbered, Prod.mk.injEq] at hconcat
    exact hconcat
  constructor
  · rintro ⟨k, hk, hgrows, hk'⟩
    rcases (hsub k).1 hk' with hold | ⟨⟨rfl, hwrite⟩, hread⟩
    · exact Or.inl ⟨k, hk, hgrows, hold⟩
    · exact Or.inr ⟨hk, hgrows, hwrite.symm, hread⟩
  · rintro (⟨k, hk, hgrows, hold⟩ | ⟨hi, hgrows, hwrite, hread⟩)
    · exact ⟨k, hk, hgrows, (hsub k).2 (Or.inl hold)⟩
    · exact ⟨i, hi, hgrows, (hsub i).2 (Or.inr ⟨⟨rfl, hwrite.symm⟩, hread⟩)⟩

/-- **One turn more** overtakes, if it sets the limits by what is out of date. -/
theorem overtaken_concat : Overtaken counts (done ++ [i]) ↔
    Overtaken counts done ∨
      (toGrow counts i ≠ 0 ∧ done.count i = writeTurn ∧ Stale counts done i) := by
  have hsub (k j : Nat) :
      [(k, readTurn), (j, writeTurn), (k, writeTurn)].Sublist (numbered [] (done ++ [i])) ↔
      [(k, readTurn), (j, writeTurn), (k, writeTurn)].Sublist (numbered [] done) ∨
        (k = i ∧ writeTurn = done.count i) ∧
          [(k, readTurn), (j, writeTurn)].Sublist (numbered [] done) := by
    rw [numbered_concat, List.nil_append, ← Prod.mk.injEq]
    exact @concat_sublist_concat _ [(k, readTurn), (j, writeTurn)] _ _ _
  constructor
  · rintro ⟨k, j, hj, hk, hgrows, hsub'⟩
    rcases (hsub k j).1 hsub' with hold | ⟨⟨rfl, hwrite⟩, hread⟩
    · exact Or.inl ⟨k, j, hj, hk, hgrows, hold⟩
    · exact Or.inr ⟨hk, hwrite.symm, j, hj, hgrows, hread⟩
  · rintro (⟨k, j, hj, hk, hgrows, hold⟩ | ⟨hi, hwrite, j, hj, hgrows, hread⟩)
    · exact ⟨k, j, hj, hk, hgrows, (hsub k j).2 (Or.inl hold)⟩
    · exact ⟨i, j, hj, hi, hgrows, (hsub i j).2 (Or.inr ⟨⟨rfl, hwrite.symm⟩, hread⟩)⟩

instance (schedule : List Nat) : Decidable (Overtaken counts schedule) :=
  decidable_of_iff (∃ i ∈ schedule, ∃ j ∈ schedule, j ≠ i ∧ toGrow counts i ≠ 0 ∧
      toGrow counts j ≠ 0 ∧
      [(i, readTurn), (j, writeTurn), (i, writeTurn)].Sublist (numbered [] schedule)) <| by
    have hmem {i t : Nat} (h : (i, t) ∈ numbered [] schedule) : i ∈ schedule :=
      List.count_pos_iff.1 (Nat.zero_lt_of_lt (mem_numbered.1 h))
    constructor
    · rintro ⟨i, -, j, -, h⟩
      exact ⟨i, j, h⟩
    · rintro ⟨i, j, h⟩
      have hsub := h.2.2.2.subset
      exact ⟨i, hmem (t := readTurn) (hsub (by simp)), j, hmem (t := writeTurn) (hsub (by simp)), h⟩

theorem written_nil : written counts [] = 0 := by
  simp [written]

/-- One turn more, which may set the limits. -/
theorem written_concat : written counts (done ++ [i]) =
    written counts done + if done.count i = writeTurn then toGrow counts i else 0 := by
  have hterm (j : Nat) :
      (if writeTurn < (done ++ [i]).count j then toGrow counts j else 0) =
        (if writeTurn < done.count j then toGrow counts j else 0) +
          if i = j then (if done.count i = writeTurn then toGrow counts i else 0) else 0 := by
    rw [List.count_append, List.count_singleton]
    by_cases hij : i = j
    · subst hij
      simp only [beq_self_eq_true, if_true]
      split <;> split <;> split <;> omega
    · simp [hij]
  rw [written, Finset.sum_congr rfl fun j _ => hterm j, Finset.sum_add_distrib, Finset.sum_ite_eq,
    ← written]
  by_cases hi : i < counts.length
  · rw [if_pos (Finset.mem_range.2 hi)]
  · rw [if_neg (mt Finset.mem_range.1 hi),
      toGrow_of_none (List.getElem?_eq_none (Nat.not_lt.1 hi)), ite_self]

/-- All growth is written when every growth has set the limits. -/
theorem written_eq_sum (h : ∀ i < counts.length, toGrow counts i = 0 ∨ writeTurn < done.count i) :
    written counts done = (counts.map UInt32.toNat).sum := by
  have hterm : ∀ i ∈ Finset.range counts.length,
      (if writeTurn < done.count i then toGrow counts i else 0) = toGrow counts i := by
    intro i hi
    rcases h i (Finset.mem_range.1 hi) with hzero | hdone
    · rw [hzero, ite_self]
    · rw [if_pos hdone]
  rw [written, Finset.sum_congr rfl hterm, Finset.sum_range, ← Fin.sum_univ_fun_getElem]
  exact Finset.sum_congr rfl fun i _ => toGrow_of_some (List.getElem?_eq_getElem i.2)

end Schedules

/-! ### One growth -/

/-- What a growth does when the limits are set. -/
def Membership.toldGrowth : Plan (Except MembershipError Unit) :=
  .report (.info "Expanded ring capacity") (.done (.ok ()))

/-- **How far a growth by `n` is** after a number of turns, when the limits that it has read, or is
to read, are `l` grown by `r`: it waits, it has nothing to do, or it goes through its two
requests. -/
inductive Growing (s : MembershipSettings) (l : Limits) (n : UInt32) (r : Nat) :
    Nat → Progress Unit → Prop
  | waiting : Growing s l n r 0 (.waiting (Membership.expandBy s n))
  | idle (hn : n = 0) (t : Nat) : Growing s l n r (t + 1) (.ended (.ok ()))
  | reading (hn : n ≠ 0) (lease : Lease) :
      Growing s l n r readTurn (.working lease (Membership.expandPlan s n) [])
  | writing (hn : n ≠ 0) (lease : Lease) :
      Growing s l n r writeTurn (.working lease (.updateGroup
        ((l.grow (r + n.toNat)).update s.ringName) fun
          | .error e => .done (.error (.cloud e))
          | .ok () => Membership.toldGrowth) [])
  | telling (hn : n ≠ 0) (lease : Lease) :
      Growing s l n r 3 (.working lease Membership.toldGrowth [])
  | closing (hn : n ≠ 0) (lease : Lease) :
      Growing s l n r 4 (.working lease (.done (.ok ())) [])
  | ended (hn : n ≠ 0) (t : Nat) : Growing s l n r (t + 5) (.ended (.ok ()))

namespace Growing

variable {s : MembershipSettings} {l : Limits} {n : UInt32} {r k t : Nat} {p : Progress Unit}
  {w : Place s.ringName} {c : Cloud}

/-- What a growth reads is of no matter before and after its two requests. -/
theorem congr (h : Growing s l n r t p) (ht : t ≠ writeTurn) (r' : Nat) : Growing s l n r' t p := by
  cases h with
  | waiting => exact .waiting
  | idle hn t => exact .idle hn t
  | reading hn lease => exact .reading hn lease
  | writing hn lease => exact absurd rfl ht
  | telling hn lease => exact .telling hn lease
  | closing hn lease => exact .closing hn lease
  | ended hn t => exact .ended hn t

/-- The limits that are grown are those that were read. -/
theorem grown_group (w : Place s.ringName) (l : Limits) (k : Nat) (n : UInt32) :
    Membership.grown (w.group (l.grow k)) n = (l.grow (k + n.toNat)).update s.ringName := by
  simp only [Membership.grown, Place.group, Limits.grow, Limits.update, addSize_growSize]

/-- **One turn of a growth**: it reads the limits in its second turn, and it sets them in its third
to what it has read, grown. -/
theorem turn (h : Growing s l n r t p) (hc : c.Holds w (l.grow k)) :
    (p.turn c).2.Holds w
        (l.grow (if t = writeTurn ∧ n ≠ 0 then r + n.toNat else k)) ∧
      Growing s l n (if t = readTurn then k else r) (t + 1) (p.turn c).1 := by
  cases h with
  | waiting =>
      by_cases hn : n = 0
      · rw [Membership.expandBy, if_pos hn]
        exact ⟨hc, .idle hn 0⟩
      · obtain ⟨lease, c', hopen, hc'⟩ := hc.open s.autoscalingEndpoint
        rw [Membership.expandBy, if_neg hn]
        simp only [Progress.turn, hopen]
        exact ⟨hc', .reading hn lease⟩
  | idle hn t =>
      simp only [hn, ne_eq, not_true_eq_false, and_false, if_false]
      exact ⟨hc, .idle rfl (t + 1)⟩
  | reading hn lease =>
      obtain ⟨c', hread, hc'⟩ := hc.describeGroups
      have hturn : (Progress.working lease (Membership.expandPlan s n) []).turn c =
          (.working lease (.updateGroup ((l.grow (k + n.toNat)).update s.ringName) fun
            | .error e => .done (.error (.cloud e))
            | .ok () => Membership.toldGrowth) [], c') := by
        simp only [Membership.expandPlan, Progress.turn, Plan.step, hread, grown_group]
        rfl
      rw [hturn]
      exact ⟨hc', .writing hn lease⟩
  | writing hn lease =>
      obtain ⟨c', hwrite, hc'⟩ := hc.updateGroup (l.grow (r + n.toNat))
      simp only [Progress.turn, Plan.step, hwrite]
      rw [if_pos ⟨trivial, hn⟩]
      exact ⟨hc', .telling hn lease⟩
  | telling hn lease => exact ⟨hc.congr (c.untouched_report _), .closing hn lease⟩
  | closing hn lease => exact ⟨hc.congr (c.untouched_finish lease true), .ended hn 0⟩
  | ended hn t => exact ⟨hc, .ended hn (t + 1)⟩

/-- A growth at its end has succeeded, and has set the limits unless it had nothing to do. -/
theorem of_ended {result : Except MembershipError Unit} (h : Growing s l n r t (.ended result)) :
    result = .ok () ∧ (n = 0 ∨ writeTurn < t) := by
  cases h with
  | idle hn t => exact ⟨rfl, Or.inl hn⟩
  | ended hn t => exact ⟨rfl, Or.inr (by rw [writeTurn]; omega)⟩

/-- A growth that had five turns is at its end. -/
theorem ended_of_le (h : Growing s l n r t p) (ht : 5 ≤ t) : p = .ended (.ok ()) := by
  cases h with
  | waiting => omega
  | idle hn t => rfl
  | reading hn lease => rw [readTurn] at ht; omega
  | writing hn lease => rw [writeTurn] at ht; omega
  | telling hn lease => omega
  | closing hn lease => omega
  | ended hn t => rfl

end Growing

/-! ### Several growths -/

/-- **Several growths under way** after the turns that are done: the limits have grown by `k`, which
is what was written if no growth was overtaken, and the `i`-th growth has read the limits when they
had grown by `r i`. -/
structure Growths (s : MembershipSettings) (w : Place s.ringName) (l : Limits)
    (counts : List UInt32) (done : List Nat) (after : List (Progress Unit) × Cloud) (k : Nat)
    (r : Nat → Nat) : Prop where
  holds : after.2.Holds w (l.grow k)
  length : after.1.length = counts.length
  stands : ∀ (i : Nat) (n : UInt32) (p : Progress Unit), counts[i]? = some n →
    after.1[i]? = some p → Growing s l n (r i) (done.count i) p
  le_written : k ≤ written counts done
  eq_written_iff : k = written counts done ↔ ¬ Overtaken counts done
  read_le : ∀ i, r i ≤ written counts done
  stale : ∀ i, Stale counts done i → r i < written counts done
  fresh : ∀ i, done.count i = writeTurn → ¬ Stale counts done i → r i = k

namespace Growths

variable {s : MembershipSettings} {w : Place s.ringName} {l : Limits} {counts : List UInt32}
  {done : List Nat} {after : List (Progress Unit) × Cloud} {k : Nat} {r : Nat → Nat}

/-- Growths that have not begun. -/
theorem start (counts : List UInt32) {c : Cloud} (h : c.Holds w l) :
    Growths s w l counts [] (counts.map fun n => .waiting (Membership.expandBy s n), c) 0
      fun _ => 0 where
  holds := by rwa [Limits.grow_zero]
  length := List.length_map _
  stands i n p hn hp := by
    rw [List.getElem?_map, hn] at hp
    rw [← Option.some.inj hp]
    exact .waiting
  le_written := Nat.zero_le _
  eq_written_iff := by simp [written_nil, Overtaken, numbered]
  read_le _ := Nat.zero_le _
  stale i h := absurd h.read (by simp)
  fresh i h := absurd h (by simp [writeTurn])

/-- Each place in the pool is that of a growth. -/
theorem exists_count (h : Growths s w l counts done after k r) {i : Nat} {p : Progress Unit}
    (hp : after.1[i]? = some p) : ∃ n, counts[i]? = some n := by
  have hlt := (List.getElem?_eq_some_iff.1 hp).1
  rw [h.length] at hlt
  exact ⟨counts[i], List.getElem?_eq_getElem hlt⟩

/-- By how much the limits have grown after one turn more. -/
def nextGrowth (counts : List UInt32) (done : List Nat) (k : Nat) (r : Nat → Nat) (i : Nat) : Nat :=
  if done.count i = writeTurn ∧ toGrow counts i ≠ 0 then r i + toGrow counts i else k

/-- By how much the limits had grown when they were read, after one turn more. -/
def nextRead (done : List Nat) (k : Nat) (r : Nat → Nat) (i j : Nat) : Nat :=
  if j = i ∧ done.count i = readTurn then k else r j

/-- One turn more, of one growth; the others stay where they are. -/
theorem turn_taken (h : Growths s w l counts done after k r) (i : Nat) :
    (takeTurn i after.1 after.2).2.Holds w (l.grow (nextGrowth counts done k r i)) ∧
      ∀ (j : Nat) (n : UInt32) (p : Progress Unit), counts[j]? = some n →
        (takeTurn i after.1 after.2).1[j]? = some p →
        Growing s l n (nextRead done k r i j) ((done ++ [i]).count j) p := by
  have hothers : ∀ (j : Nat) (n : UInt32) (p : Progress Unit), i ≠ j → counts[j]? = some n →
      (takeTurn i after.1 after.2).1[j]? = some p →
      Growing s l n (nextRead done k r i j) ((done ++ [i]).count j) p := by
    intro j n p hij hn hp
    rw [getElem?_takeTurn_of_ne hij] at hp
    have hcount : (done ++ [i]).count j = done.count j := by simp [hij]
    rw [nextRead, if_neg fun hj => hij hj.1.symm, hcount]
    exact h.stands j n p hn hp
  cases hi : after.1[i]? with
  | none =>
      have hnone : counts[i]? = none := by
        rw [List.getElem?_eq_none_iff] at hi ⊢
        rwa [← h.length]
      rw [nextGrowth, if_neg fun hw => hw.2 (toGrow_of_none hnone)]
      refine ⟨by rw [takeTurn_of_none hi]; exact h.holds, fun j n p hn hp => ?_⟩
      refine hothers j n p (fun hij => ?_) hn hp
      rw [← hij, hnone] at hn
      cases hn
  | some q =>
      obtain ⟨n, hn⟩ := h.exists_count hi
      have hzero : n.toNat ≠ 0 ↔ n ≠ 0 := not_congr (UInt32.toNat_inj (b := 0))
      obtain ⟨hholds, hturn⟩ := (h.stands i n q hn hi).turn h.holds
      refine ⟨?_, fun j m p hm hp => ?_⟩
      · simp only [takeTurn_of_getElem? hi, nextGrowth, toGrow_of_some hn, hzero]
        exact hholds
      · by_cases hij : i = j
        · subst hij
          rw [getElem?_takeTurn_self hi] at hp
          obtain rfl := Option.some.inj hp
          obtain rfl : n = m := Option.some.inj (hn.symm.trans hm)
          have hcount : (done ++ [i]).count i = done.count i + 1 := by simp
          rw [nextRead, hcount]
          simpa only [true_and] using hturn
        · exact hothers j m p hij hm hp

/-- **A turn that sets the limits** makes out of date what others have read.  If what it sets is up
to date then its count is added; if not, then it was less than all that was written, and stays
so. -/
theorem takeTurn_of_write (h : Growths s w l counts done after k r) (i : Nat)
    (hturn : done.count i = writeTurn) (hgrows : toGrow counts i ≠ 0) :
    Growths s w l counts (done ++ [i]) (takeTurn i after.1 after.2)
      (nextGrowth counts done k r i) (nextRead done k r i) := by
  obtain ⟨hholds, hstands⟩ := h.turn_taken i
  have hk : nextGrowth counts done k r i = r i + toGrow counts i := if_pos ⟨hturn, hgrows⟩
  have hr (j : Nat) : nextRead done k r i j = r j := by
    refine if_neg fun hj => ?_
    rw [hturn] at hj
    exact absurd hj.2 (by decide)
  have hwritten : written counts (done ++ [i]) = written counts done + toGrow counts i := by
    rw [written_concat, if_pos hturn]
  have hri : r i = written counts done ↔ ¬ Overtaken counts done ∧ ¬ Stale counts done i := by
    by_cases hstale : Stale counts done i
    · exact iff_of_false (h.stale i hstale).ne fun hno => hno.2 hstale
    · rw [h.fresh i hturn hstale]
      exact h.eq_written_iff.trans (and_iff_left hstale).symm
  refine ⟨hholds, (length_takeTurn i _ _).trans h.length, hstands, ?_, ?_, fun j => ?_,
    fun j hj => ?_, fun j hj hfresh => ?_⟩
  · rw [hk, hwritten]
    exact Nat.add_le_add_right (h.read_le i) _
  · rw [hk, hwritten, overtaken_concat, Nat.add_right_cancel_iff, hri]
    simp [hturn, hgrows, not_or]
  · rw [hr, hwritten]
    exact (h.read_le j).trans (Nat.le_add_right _ _)
  · rw [hr, hwritten]
    have hle := h.read_le j
    omega
  · -- another growth that is about to set the limits has read them before
    have hij : i ≠ j := by
      rintro rfl
      rw [List.count_append, hturn] at hj
      simp at hj
    have hcount : done.count j = writeTurn := by simpa [hij] using hj
    have hread : readTurn < done.count j := by
      rw [hcount]
      decide
    exact absurd (stale_concat.2 (Or.inr ⟨hij, hgrows, hturn, hread⟩)) hfresh

/-- **Any other turn** leaves the limits as they are, and may read them. -/
theorem takeTurn_of_no_write (h : Growths s w l counts done after k r) (i : Nat)
    (hwrite : ¬ (done.count i = writeTurn ∧ toGrow counts i ≠ 0)) :
    Growths s w l counts (done ++ [i]) (takeTurn i after.1 after.2)
      (nextGrowth counts done k r i) (nextRead done k r i) := by
  obtain ⟨hholds, hstands⟩ := h.turn_taken i
  have hk : nextGrowth counts done k r i = k := if_neg hwrite
  have hwritten : written counts (done ++ [i]) = written counts done := by
    rw [written_concat]
    split
    · next hturn => rw [not_not.1 fun hne => hwrite ⟨hturn, hne⟩, Nat.add_zero]
    · rfl
  have hstale (j : Nat) : Stale counts (done ++ [i]) j ↔ Stale counts done j := by
    rw [stale_concat]
    exact or_iff_left fun hno => hwrite ⟨hno.2.2.1, hno.2.1⟩
  have hovertaken : Overtaken counts (done ++ [i]) ↔ Overtaken counts done := by
    rw [overtaken_concat]
    exact or_iff_left fun hno => hwrite ⟨hno.2.1, hno.1⟩
  refine ⟨hholds, (length_takeTurn i _ _).trans h.length, hstands, ?_, ?_, fun j => ?_,
    fun j hj => ?_, fun j hj hfresh => ?_⟩
  · rw [hk, hwritten]
    exact h.le_written
  · rw [hk, hwritten, hovertaken]
    exact h.eq_written_iff
  · rw [hwritten, nextRead]
    split
    · exact h.le_written
    · exact h.read_le j
  · rw [hstale] at hj
    rw [hwritten, nextRead, if_neg fun hi => ?_]
    · exact h.stale j hj
    · have hread := hj.read
      rw [hi.1, hi.2] at hread
      exact lt_irrefl _ hread
  · rw [hstale] at hfresh
    rw [hk, nextRead]
    split
    · rfl
    · next hi =>
      refine h.fresh j ?_ hfresh
      by_cases hij : i = j
      · subst hij
        have hcount : done.count i + 1 = writeTurn := by simpa using hj
        exact absurd ⟨rfl, Nat.succ.inj hcount⟩ hi
      · simpa [hij] using hj

/-- **One turn more.** -/
theorem takeTurn (h : Growths s w l counts done after k r) (i : Nat) :
    Growths s w l counts (done ++ [i]) (takeTurn i after.1 after.2)
      (nextGrowth counts done k r i) (nextRead done k r i) := by
  by_cases hwrite : done.count i = writeTurn ∧ toGrow counts i ≠ 0
  · exact h.takeTurn_of_write i hwrite.1 hwrite.2
  · exact h.takeTurn_of_no_write i hwrite

/-- **Any number of turns.** -/
theorem takeTurns (counts : List UInt32) {c : Cloud} (h : c.Holds w l) (schedule : List Nat) :
    ∃ k r, Growths s w l counts schedule
      (takeTurns schedule (counts.map fun n => .waiting (Membership.expandBy s n)) c) k r := by
  induction schedule using List.reverseRecOn with
  | nil => exact ⟨0, _, start counts h⟩
  | append_singleton done i ih =>
      obtain ⟨k, r, hdone⟩ := ih
      rw [takeTurns_concat]
      exact ⟨_, _, hdone.takeTurn i⟩

end Growths

/-- **Growth is lost if and only if a growth is overtaken.**  Let no failure be asked for, and let
the group of the ring be there.  Then, whatever the schedule:

* every growth that is at its end has succeeded, and one that had five turns is at its end;
* when all growths are at their ends, each limit has grown by one number, up to the greatest size,
  and all around the limits is as it was;
* that number is the sum of the counts if no growth was overtaken, and less if one was. -/
theorem growths_add_up_iff_none_is_overtaken (s : MembershipSettings) {c : Cloud} (hc : c.Steady)
    {g : AutoScalingGroup} (hg : c.store.group? s.ringName = some g) (counts : List UInt32)
    (schedule : List Nat) :
    let after := takeTurns schedule (counts.map fun n => .waiting (Membership.expandBy s n)) c
    let total := (counts.map UInt32.toNat).sum
    (∀ result, .ended result ∈ after.1 → result = .ok ()) ∧
    (∀ i < counts.length, 5 ≤ schedule.count i → after.1[i]? = some (.ended (.ok ()))) ∧
    ((∀ i < counts.length, ∃ result, after.1[i]? = some (.ended result)) →
      ∃ (w : Place s.ringName) (k : Nat), c.store = w.store g.limits ∧
        after.2.store = w.store (g.limits.grow k) ∧ k ≤ total ∧
        (k = total ↔ ¬ Overtaken counts schedule)) := by
  intro after total
  obtain ⟨w, hw⟩ := Place.exists_store hg
  obtain ⟨k, r, h⟩ := Growths.takeTurns counts ⟨hc, hw⟩ schedule
  refine ⟨fun result hresult => ?_, fun i hi hturns => ?_, fun hall => ?_⟩
  · obtain ⟨i, hi⟩ := List.mem_iff_getElem?.1 hresult
    obtain ⟨n, hn⟩ := h.exists_count hi
    exact (h.stands i n _ hn hi).of_ended.1
  · have hlt : i < after.1.length := by rwa [h.length]
    have hstands := h.stands i _ _ (List.getElem?_eq_getElem hi) (List.getElem?_eq_getElem hlt)
    rw [List.getElem?_eq_getElem hlt, hstands.ended_of_le hturns]
  · have htotal : written counts schedule = total := by
      refine written_eq_sum fun i hi => ?_
      obtain ⟨result, hp⟩ := hall i hi
      have hn := List.getElem?_eq_getElem hi
      refine (h.stands i _ _ hn hp).of_ended.2.imp_left fun hzero => ?_
      rw [toGrow_of_some hn, hzero]
      rfl
    refine ⟨w, k, hw, h.holds.store, ?_, ?_⟩
    · exact htotal ▸ h.le_written
    · exact htotal ▸ h.eq_written_iff

/-- Two growths that take turns, one of which reads the limits when the other has set them. -/
theorem growths_add_up_of_turns :
    let s : MembershipSettings := ⟨"ring", none, ["a"], "acl", "dc"⟩
    let g : AutoScalingGroup := ⟨"ring", 1, 4294967292, 2, [⟨"i-1", "InService"⟩]⟩
    let c : Cloud := { store := ⟨[⟨"other", 7, 7, 7, []⟩, g], []⟩, faults := { releases := true } }
    let counts : List UInt32 := [2, 0, 3]
    let schedule := [0, 2, 1, 0, 0, 2, 1, 2, 0, 0, 1, 1, 2, 2, 1]
    let after := takeTurns schedule (counts.map fun n => .waiting (Membership.expandBy s n)) c
    c.Steady ∧ c.store.group? s.ringName = some g ∧ ¬ Overtaken counts schedule ∧
      (∀ i < counts.length, after.1[i]? = some (.ended (.ok ()))) ∧
      (after.2.store.group? s.ringName).map AutoScalingGroup.limits =
        some ⟨6, 4294967295, 7⟩ := by
  intro s g c counts schedule after
  have hc : c.Steady := ⟨rfl, rfl, by simp [c]⟩
  have hg : c.store.group? s.ringName = some g := by decide
  have hnone : ¬ Overtaken counts schedule := by decide
  obtain ⟨-, hends, hsizes⟩ := growths_add_up_iff_none_is_overtaken s hc hg counts schedule
  have hturns : ∀ i < counts.length, 5 ≤ schedule.count i := by decide
  have hended (i : Nat) (hi : i < counts.length) := hends i hi (hturns i hi)
  obtain ⟨w, k, -, hstore, -, hk⟩ := hsizes fun i hi => ⟨_, hended i hi⟩
  refine ⟨hc, hg, hnone, hended, ?_⟩
  rw [hstore, w.group?_store, Option.map_some, w.limits_group, hk.2 hnone]
  decide

/-- **An overtaken growth is lost**: two growths by one that read the limits before either of them
has set them grow the limits by one. -/
theorem overtaken_growth_is_lost :
    let s : MembershipSettings := ⟨"ring", none, ["a"], "acl", "dc"⟩
    let g : AutoScalingGroup := ⟨"ring", 1, 1, 1, []⟩
    let after := takeTurns [0, 1, 0, 1, 0, 1, 0, 1, 0, 1]
      [.waiting (Membership.expandBy s 1), .waiting (Membership.expandBy s 1)]
      { store := ⟨[g], []⟩ }
    after.1 = [.ended (.ok ()), .ended (.ok ())] ∧
      (after.2.store.group? s.ringName).map AutoScalingGroup.limits = some ⟨2, 2, 2⟩ ∧
      g.limits.grow (1 + 1) = ⟨3, 3, 3⟩ := by
  refine ⟨rfl, ?_, ?_⟩
  · decide
  · decide

end NodeSidecar
