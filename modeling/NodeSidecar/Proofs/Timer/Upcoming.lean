/-
**The instants of a timer.**

A timer that is started at an instant has a first instant and, as long as there is one, a next one.
This module takes these instants as one sequence and studies a timer that always moves forward: its
instants are in ascending order, and catching up with a clock stops at the first of them that lies
after the clock.

Main definitions:

* `Timer.upcoming`, `Timer.Reaches` — the instants of a timer, by number and as a set;
* `Timer.FiresAt` — the instants that are listed among the fires of a timer;
* `Timer.Increasing`, `Timer.Answers` — a timer that moves forward, and one that never breaks down;
* `Timer.IsFirstAhead` — the first instant of a timer that lies after all readings of a clock.

Main results:

* `Timer.upcoming_of_fires`, `Timer.fires_of_upcoming` — the listed fires of a timer are its
  instants;
* `Timer.firesAt_iff` — an instant is listed unless the timer breaks down behind it;
* `Timer.upcoming_lt` — the instants of a timer that moves forward ascend;
* `Timer.reaches_of_steps` — such a timer reaches what it does not pass over;
* `catchUp_upcoming` — what catching up passes over, and where it stops;
* `Timer.IsFirstAhead.unique` — the first instant ahead depends on the timer and the clock only.
-/

import NodeSidecar.Scheduler.Loop

set_option autoImplicit false

namespace NodeSidecar

namespace Timer

variable {t : Timer} {start : Instant}

/-- The `k`-th instant of a timer that is started at `start`, counted from zero; there is none after
the last. -/
def upcoming (t : Timer) (start : Instant) : Nat → Except Cron.Breakdown (Option Instant)
  | 0 => t.firstFire start
  | k + 1 =>
    match t.upcoming start k with
    | .ok (some i) => t.nextAfter i
    | .ok none => .ok none
    | .error b => .error b

/-- An instant at which a timer fires when it is started at `start`. -/
def Reaches (t : Timer) (start i : Instant) : Prop := ∃ k, t.upcoming start k = .ok (some i)

/-- An instant that is listed among the fires of a timer, when enough of them are asked for. -/
def FiresAt (t : Timer) (start i : Instant) : Prop := ∃ n is, t.fires start n = .ok is ∧ i ∈ is

/-- A timer moves forward when every instant is followed by a later one. -/
def Increasing (t : Timer) : Prop := ∀ i j, t.nextAfter i = .ok (some j) → i < j

/-- A timer answers when it never breaks down. -/
def Answers (t : Timer) : Prop := ∀ i, ∃ next, t.nextAfter i = .ok next

theorem increasing_interval (i : IntervalTimer) : (Timer.interval i).Increasing := by
  intro a b h
  have hs : a.shift? i.period.nanos = some b := Except.ok.inj h
  have hpos := i.positive
  rw [Instant.lt_iff, Instant.nanos_of_shift? hs]
  omega

theorem answers_interval (i : IntervalTimer) : (Timer.interval i).Answers := fun _ => ⟨_, rfl⟩

/-! ### The sequence of instants -/

theorem upcoming_succ_of_some {k : Nat} {i : Instant} (h : t.upcoming start k = .ok (some i)) :
    t.upcoming start (k + 1) = t.nextAfter i := by
  simp only [upcoming, h]

theorem upcoming_succ_of_none {k : Nat} (h : t.upcoming start k = .ok none) :
    t.upcoming start (k + 1) = .ok none := by
  simp only [upcoming, h]

/-- An instant that is not the first follows another one. -/
theorem exists_previous {k : Nat} {j : Instant} (h : t.upcoming start (k + 1) = .ok (some j)) :
    ∃ i, t.upcoming start k = .ok (some i) ∧ t.nextAfter i = .ok (some j) := by
  simp only [upcoming] at h
  split at h
  · next i hi => exact ⟨i, hi, h⟩
  · simp at h
  · cases h

/-- After its end the sequence has no instants. -/
theorem upcoming_of_none_of_le {k m : Nat} (h : t.upcoming start k = .ok none) (hle : k ≤ m) :
    t.upcoming start m = .ok none := by
  induction hle with
  | refl => exact h
  | step _ ih => exact upcoming_succ_of_none ih

/-- Up to a place where it has not broken down the sequence has not broken down either. -/
theorem exists_upcoming_of_le {k m : Nat} {next : Option Instant}
    (h : t.upcoming start m = .ok next) (hle : k ≤ m) :
    ∃ next', t.upcoming start k = .ok next' := by
  induction hle generalizing next with
  | refl => exact ⟨next, h⟩
  | step _ ih =>
      simp only [upcoming] at h
      split at h
      · next i hi => exact ih hi
      · next hi => exact ih hi
      · cases h

/-- **The instants of a timer that moves forward ascend.** -/
theorem upcoming_lt (inc : t.Increasing) {k m : Nat} {i j : Instant}
    (hi : t.upcoming start k = .ok (some i)) (hj : t.upcoming start m = .ok (some j))
    (hlt : k < m) : i < j := by
  induction m generalizing j with
  | zero => omega
  | succ m ih =>
      obtain ⟨p, hp, hn⟩ := exists_previous hj
      have hpj : p < j := inc p j hn
      rcases Nat.lt_succ_iff_lt_or_eq.1 hlt with hkm | rfl
      · have hip := ih hp hkm
        rw [Instant.lt_iff] at *
        omega
      · obtain rfl : i = p := by
          rw [hi] at hp
          exact Option.some.inj (Except.ok.inj hp)
        exact hpj

theorem upcoming_le (inc : t.Increasing) {k m : Nat} {i j : Instant}
    (hi : t.upcoming start k = .ok (some i)) (hj : t.upcoming start m = .ok (some j))
    (hle : k ≤ m) : i ≤ j := by
  rcases Nat.lt_or_eq_of_le hle with hlt | rfl
  · exact Int.le_of_lt (upcoming_lt inc hi hj hlt)
  · rw [hi] at hj
    rw [Option.some.inj (Except.ok.inj hj)]
    exact Int.le_refl _

/-- The listed instants are those of the sequence. -/
theorem upcoming_of_firesFrom {n m : Nat} {next : Option Instant} {is : List Instant}
    (h : t.firesFrom n next = .ok is) (hm : t.upcoming start m = .ok next) :
    ∀ k < n, t.upcoming start (m + k) = .ok is[k]? := by
  induction n generalizing m next is with
  | zero => intro k hk; omega
  | succ n ih =>
      intro k hk
      cases next with
      | none =>
          obtain rfl : [] = is := Except.ok.inj h
          simpa using upcoming_of_none_of_le hm (Nat.le_add_right m k)
      | some i =>
          simp only [firesFrom, bind, Except.bind, pure, Except.pure] at h
          cases hn : t.nextAfter i with
          | error b => simp [hn] at h
          | ok next' =>
              cases hf : t.firesFrom n next' with
              | error b => simp [hn, hf] at h
              | ok rest =>
                  simp only [hn, hf, Except.ok.injEq] at h
                  subst h
                  cases k with
                  | zero => simpa using hm
                  | succ k =>
                      have hm' : t.upcoming start (m + 1) = .ok next' := by
                        rw [upcoming_succ_of_some hm, hn]
                      have := ih hf hm' k (by omega)
                      rw [List.getElem?_cons_succ, ← this]
                      congr 1
                      omega

/-- **The listed fires of a timer are its instants.** -/
theorem upcoming_of_fires {n : Nat} {is : List Instant} (h : t.fires start n = .ok is) :
    ∀ k < n, t.upcoming start k = .ok is[k]? := by
  simp only [fires, bind, Except.bind] at h
  split at h
  · cases h
  · next first hf =>
    intro k hk
    simpa using upcoming_of_firesFrom (m := 0) h hf k hk

variable {at? : Nat → Option Instant}

/-- The listed fires from one of the instants of a timer on. -/
theorem firesFrom_of_upcoming (h : ∀ k, t.upcoming start k = .ok (at? k)) (n k : Nat) :
    t.firesFrom n (at? k) = .ok ((List.range' k n).filterMap at?) := by
  induction n generalizing k with
  | zero => rfl
  | succ n ih =>
      cases hk : at? k with
      | none =>
          -- the sequence has ended
          have hnone : ∀ m ∈ List.range' k (n + 1), at? m = none := by
            intro m hm
            have hend := upcoming_of_none_of_le (hk ▸ h k) (List.mem_range'_1.1 hm).1
            rw [h m] at hend
            exact Except.ok.inj hend
          rw [List.filterMap_eq_nil_iff.2 hnone]
          rfl
      | some i =>
          have hnext : t.nextAfter i = .ok (at? (k + 1)) := by
            rw [← upcoming_succ_of_some (hk ▸ h k), h]
          rw [List.range'_succ, List.filterMap_cons, hk, firesFrom, hnext]
          simp only [bind, Except.bind, pure, Except.pure, ih (k + 1)]

/-- **The listed fires of a timer are its first instants.** -/
theorem fires_of_upcoming (h : ∀ k, t.upcoming start k = .ok (at? k)) (n : Nat) :
    t.fires start n = .ok ((List.range n).filterMap at?) := by
  have hfirst : t.firstFire start = .ok (at? 0) := h 0
  rw [fires, hfirst, List.range_eq_range']
  exact firesFrom_of_upcoming h n 0

/-- When the sequence has not broken down at a place, the fires up to there are listed. -/
theorem exists_firesFrom {n m : Nat} {next last : Option Instant}
    (hm : t.upcoming start m = .ok next) (hlast : t.upcoming start (m + n) = .ok last) :
    ∃ is, t.firesFrom n next = .ok is := by
  induction n generalizing m next with
  | zero => exact ⟨[], rfl⟩
  | succ n ih =>
      cases next with
      | none => exact ⟨[], rfl⟩
      | some i =>
          have hlast : t.upcoming start (m + 1 + n) = .ok last := by rwa [Nat.succ_add_eq_add_succ]
          obtain ⟨next', hnext⟩ := exists_upcoming_of_le hlast (Nat.le_add_right (m + 1) n)
          obtain ⟨rest, hrest⟩ := ih hnext hlast
          rw [upcoming_succ_of_some hm] at hnext
          exact ⟨i :: rest, by simp [firesFrom, bind, Except.bind, pure, Except.pure, hnext, hrest]⟩

/-- A listed instant is one of the sequence, and the one behind it has been looked up. -/
theorem reaches_of_mem_firesFrom {n m : Nat} {next : Option Instant} {is : List Instant}
    {i : Instant} (h : t.firesFrom n next = .ok is) (hm : t.upcoming start m = .ok next)
    (hi : i ∈ is) : t.Reaches start i ∧ ∃ next?, t.nextAfter i = .ok next? := by
  induction n generalizing m next is with
  | zero =>
      obtain rfl : [] = is := Except.ok.inj h
      cases hi
  | succ n ih =>
      cases next with
      | none =>
          obtain rfl : [] = is := Except.ok.inj h
          cases hi
      | some j =>
          simp only [firesFrom, bind, Except.bind, pure, Except.pure] at h
          cases hn : t.nextAfter j with
          | error b => simp [hn] at h
          | ok next' =>
              cases hf : t.firesFrom n next' with
              | error b => simp [hn, hf] at h
              | ok rest =>
                  simp only [hn, hf, Except.ok.injEq] at h
                  subst h
                  rcases List.mem_cons.1 hi with rfl | hi
                  · exact ⟨⟨m, hm⟩, next', hn⟩
                  · exact ih hf ((upcoming_succ_of_some hm).trans hn) hi

/-- **An instant of a timer is listed unless the timer breaks down behind it**, since the instant
behind it is looked up first. -/
theorem firesAt_iff {i : Instant} :
    t.FiresAt start i ↔ t.Reaches start i ∧ ∃ next?, t.nextAfter i = .ok next? := by
  constructor
  · rintro ⟨n, is, hfires, hi⟩
    simp only [fires, bind, Except.bind] at hfires
    split at hfires
    · cases hfires
    · next first hfirst => exact reaches_of_mem_firesFrom (m := 0) hfires hfirst hi
  · rintro ⟨⟨k, hk⟩, next?, hnext⟩
    have hlast := (upcoming_succ_of_some hk).trans hnext
    obtain ⟨first, hfirst⟩ := exists_upcoming_of_le hlast (Nat.zero_le (k + 1))
    obtain ⟨is, his⟩ := exists_firesFrom (n := k + 1) hfirst (by rwa [Nat.zero_add])
    have hfires : t.fires start (k + 1) = .ok is := by
      have hfirst : t.firstFire start = .ok first := hfirst
      rw [fires, hfirst]
      exact his
    refine ⟨k + 1, is, hfires, List.mem_of_getElem? (i := k) ?_⟩
    have hplace := upcoming_of_fires hfires k (Nat.lt_succ_self k)
    rw [hk] at hplace
    exact (Except.ok.inj hplace).symm

/-- **A timer that never passes over an instant reaches it.** -/
theorem reaches_of_steps (inc : t.Increasing) {i : Instant}
    (hfirst : ∃ j, t.firstFire start = .ok (some j) ∧ j ≤ i)
    (hstep : ∀ j, t.Reaches start j → j < i → ∃ j', t.nextAfter j = .ok (some j') ∧ j' ≤ i) :
    t.Reaches start i := by
  -- every step brings the instant nearer
  suffices h : ∀ n : Nat, ∀ j, t.Reaches start j → j ≤ i → (i.nanos - j.nanos).toNat = n →
      t.Reaches start i by
    obtain ⟨j, hj, hle⟩ := hfirst
    exact h _ j ⟨0, hj⟩ hle rfl
  intro n
  induction n using Nat.strongRecOn with
  | ind n ih =>
      intro j hj hle hn
      rcases Int.lt_or_eq_of_le hle with hlt | heq
      · obtain ⟨j', hnext, hle'⟩ := hstep j hj hlt
        obtain ⟨k, hk⟩ := hj
        have hj' : t.Reaches start j' := ⟨k + 1, by rw [upcoming_succ_of_some hk, hnext]⟩
        have hlater : j.nanos < j'.nanos := inc j j' hnext
        exact ih _ (by omega) j' hj' hle' rfl
      · exact Instant.eq_of_nanos_eq heq ▸ hj

/-! ### The first instant ahead of a clock -/

/-- **The first instant of a timer that lies after all readings of a clock**; there is none when
every instant has been read or passed. -/
def IsFirstAhead (t : Timer) (start : Instant) (clock : List Instant) : Option Instant → Prop
  | some i => t.Reaches start i ∧ (∀ n ∈ clock, n < i) ∧
      ∀ j, t.Reaches start j → (∀ n ∈ clock, n < j) → i ≤ j
  | none => ∀ j, t.Reaches start j → ∃ n ∈ clock, j ≤ n

/-- The first instant ahead depends on the timer and on which readings there are, and on nothing
else. -/
theorem IsFirstAhead.unique {clock clock' : List Instant} {a b : Option Instant}
    (ha : t.IsFirstAhead start clock a) (hb : t.IsFirstAhead start clock' b)
    (hc : ∀ n, n ∈ clock ↔ n ∈ clock') : a = b := by
  cases a with
  | none =>
      cases b with
      | none => rfl
      | some j =>
          obtain ⟨n, hn, hle⟩ := ha j hb.1
          have hlt := hb.2.1 n ((hc n).1 hn)
          exact absurd hlt (Int.not_lt.2 hle)
  | some i =>
      cases b with
      | none =>
          obtain ⟨n, hn, hle⟩ := hb i ha.1
          have hlt := ha.2.1 n ((hc n).2 hn)
          exact absurd hlt (Int.not_lt.2 hle)
      | some j =>
          have hij := ha.2.2 j hb.1 fun n hn => hb.2.1 n ((hc n).1 hn)
          have hji := hb.2.2 i ha.1 fun n hn => ha.2.1 n ((hc n).2 hn)
          rw [Instant.eq_of_nanos_eq (Int.le_antisymm hij hji)]

/-- A place in the sequence that is reached by a clock: the instants before it have been read or
passed, and the instant there, if any, has not. -/
structure Passed (t : Timer) (start : Instant) (clock : List Instant) (k : Nat)
    (next : Option Instant) : Prop where
  place : t.upcoming start k = .ok next
  before : ∀ m < k, ∃ i n, t.upcoming start m = .ok (some i) ∧ n ∈ clock ∧ i ≤ n
  ahead : ∀ i, next = some i → ∀ n ∈ clock, n < i

/-- Where a timer that moves forward has been passed, there is the first instant ahead. -/
theorem Passed.isFirstAhead {clock : List Instant} {k : Nat} {next : Option Instant}
    (h : t.Passed start clock k next) (inc : t.Increasing) :
    t.IsFirstAhead start clock next := by
  cases next with
  | none =>
      rintro j ⟨m, hm⟩
      rcases Nat.lt_or_ge m k with hlt | hge
      · obtain ⟨i, n, hi, hn, hle⟩ := h.before m hlt
        obtain rfl : i = j := by
          rw [hi] at hm
          exact Option.some.inj (Except.ok.inj hm)
        exact ⟨n, hn, hle⟩
      · rw [upcoming_of_none_of_le h.place hge] at hm
        simp at hm
  | some i =>
      refine ⟨⟨k, h.place⟩, h.ahead i rfl, ?_⟩
      rintro j ⟨m, hm⟩ hj
      rcases Nat.lt_or_ge m k with hlt | hge
      · obtain ⟨i', n, hi', hn, hle⟩ := h.before m hlt
        obtain rfl : i' = j := by
          rw [hi'] at hm
          exact Option.some.inj (Except.ok.inj hm)
        exact absurd (hj n hn) (Int.not_lt.2 hle)
      · exact upcoming_le inc h.place hm hge

end Timer

/-! ### Catching up -/

variable {t : Timer} {start now : Instant}

/-- **Catching up** along a timer that moves forward passes over the instants that are not after the
clock and stops at the first one that is. -/
theorem catchUp_upcoming (inc : t.Increasing) {at? next : Option Instant} {missed missed' k : Nat}
    (hk : t.upcoming start k = .ok at?) (h : catchUp t now at? missed = .ok (next, missed')) :
    ∃ m, k ≤ m ∧ t.upcoming start m = .ok next ∧
      (∀ n, k ≤ n → n < m → ∃ i, t.upcoming start n = .ok (some i) ∧ i ≤ now) ∧
      ∀ i, next = some i → now < i := by
  fun_induction catchUp t now at? missed generalizing k with
  | case1 missed =>
      obtain ⟨rfl, -⟩ : none = next ∧ missed = missed' := by simpa using h
      exact ⟨k, Nat.le_refl k, hk, fun n h₁ h₂ => by omega, by simp⟩
  | case2 missed i hlt =>
      obtain ⟨rfl, -⟩ : some i = next ∧ missed = missed' := by simpa using h
      refine ⟨k, Nat.le_refl k, hk, fun n h₁ h₂ => by omega, ?_⟩
      intro j hj
      exact Option.some.inj hj ▸ hlt
  | case3 missed i _ b hn => cases h
  | case4 missed i hle hn =>
      obtain ⟨rfl, -⟩ : none = next ∧ missed + 1 = missed' := by simpa using h
      refine ⟨k + 1, Nat.le_succ k, ?_, ?_, by simp⟩
      · rw [Timer.upcoming_succ_of_some hk, hn]
      · intro n h₁ h₂
        obtain rfl : n = k := by omega
        exact ⟨i, hk, Int.not_lt.1 hle⟩
  | case5 missed i hle j hn hlt ih =>
      have hk' : t.upcoming start (k + 1) = .ok (some j) := by
        rw [Timer.upcoming_succ_of_some hk, hn]
      obtain ⟨m, hkm, hm, hbetween, hafter⟩ := ih hk' h
      refine ⟨m, by omega, hm, fun n h₁ h₂ => ?_, hafter⟩
      rcases Nat.eq_or_lt_of_le h₁ with rfl | h₁
      · exact ⟨i, hk, Int.not_lt.1 hle⟩
      · exact hbetween n h₁ h₂
  | case6 missed i _ j hn hnot => exact absurd (inc i j hn) hnot

/-- Catching up along a timer that answers gives an answer. -/
theorem catchUp_answers (ans : t.Answers) (now : Instant) (at? : Option Instant) (missed : Nat) :
    ∃ p, catchUp t now at? missed = .ok p := by
  fun_induction catchUp t now at? missed with
  | case1 => exact ⟨_, rfl⟩
  | case2 => exact ⟨_, rfl⟩
  | case3 missed i _ b hn =>
      obtain ⟨next, hnext⟩ := ans i
      rw [hnext] at hn
      cases hn
  | case4 => exact ⟨_, rfl⟩
  | case5 _ _ _ _ _ _ ih => exact ih
  | case6 => exact ⟨_, rfl⟩

end NodeSidecar
