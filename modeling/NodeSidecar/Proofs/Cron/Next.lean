/-
**The next instant of a schedule.**

The next instant of a schedule is a later one: a clock may be put back, but the search takes only
times that belong to exactly one second, and such a time parts all seconds of the zone.

In a zone that has had one offset since 1970 every wall clock time is shown by exactly one second,
and later seconds show later times.  There no search breaks down, and it gives the first instant on
a whole second whose wall clock time the schedule allows.

Main definitions:

* `Zone.localTime` — what the wall clock of a zone shows at an instant;
* `IsFirstOf` — the first instant of a set, if there is one;
* `Cron.matchesAfter` — the instants after a start whose wall clock time is allowed.

Main results:

* `Cron.Schedule.lt_of_next` — **the next instant of a schedule is later**;
* `Cron.Schedule.next_isFirstOf` — **the next instant of a schedule is the first that it allows**;
* `Cron.mem_matchesAfter_iff` — what a schedule that names no year allows, up to the end of 2100.
-/

import NodeSidecar.Proofs.Cron.Reading
import NodeSidecar.Proofs.Time.Seconds
import NodeSidecar.Proofs.Zone.WallClock
import Mathlib.Order.Bounds.Defs

set_option autoImplicit false

namespace NodeSidecar

/-- What the wall clock of a zone shows at an instant. -/
def Zone.localTime (z : Zone) (i : Instant) : LocalTime := .ofSeconds (z.wallClock i.second)

/-- **The first instant of a set**, if there is one. -/
def IsFirstOf (S : Set Instant) : Option Instant → Prop
  | some i => IsLeast S i
  | none => ∀ i, i ∉ S

namespace Cron

variable {s : Schedule} {z : Zone} {offset : Int} {start base : Instant}

/-! ### The next instant -/

/-- **How a next instant is found**: the search starts from what the clock shows a second later. -/
theorem Schedule.next_eq_ok {next? : Option Instant} : s.next z start = .ok next? ↔
    ∃ base, start.shift? nanosPerSecond = some base ∧
      ((s.search? z (z.localTime base) = none ∧ next? = none) ∨
        ∃ u, s.search? z (z.localTime base) = some (.ok u) ∧ next? = Instant.ofSecond? u) := by
  simp only [next, Zone.localTime]
  cases start.shift? nanosPerSecond with
  | none => simp
  | some base =>
      simp only [Option.some.injEq, exists_eq_left']
      generalize s.search? z (.ofSeconds (z.wallClock base.second)) = found
      match found with
      | none => simp [eq_comm]
      | some (.error b) => simp
      | some (.ok u) => simp [eq_comm]

/-- **The next instant of a schedule is later**, in every zone and whatever years the schedule
allows. -/
theorem Schedule.lt_of_next (hs : s.IsProper) {i : Instant} (h : s.next z start = .ok (some i)) :
    start < i := by
  obtain ⟨base, hbase, ⟨-, hnone⟩ | ⟨u, hsearch, hu⟩⟩ := next_eq_ok.1 h
  · cases hnone
  obtain ⟨hsecond, hfraction⟩ := Instant.second_of_ofSecond? hu.symm
  have hnext := Instant.second_of_shift_second hbase
  obtain ⟨l, hle, hunique⟩ := exists_of_search hs (Date.isReal_ofDays _)
    (LocalTime.isReal_time _) hsearch
  have hle : z.wallClock base.second ≤ l := by simpa using hle
  -- at the one second of a time the clock has shown no later time before
  have hlater : base.second ≤ u := by
    rcases Int.lt_or_eq_of_le hle with hlt | rfl
    · exact Int.le_of_lt ((Zone.wallClock_lt_iff hunique).1 hlt)
    · exact Int.le_of_eq ((Zone.unique?_eq_some_iff.1 hunique _).1 rfl)
  rw [Instant.lt_iff_second_lt hfraction]
  omega

/-- The instants after `start`, on a whole second, whose wall clock time is allowed. -/
def matchesAfter (z : Zone) (start : Instant) (allowed : LocalTime → Prop) : Set Instant :=
  {i | start < i ∧ i.fraction = 0 ∧ allowed (z.localTime i)}

/-- In a zone with one offset nothing breaks down, and what is found is the first allowed time. -/
theorem Finds.of_constant {S : Set Int} {r : Option (Except Breakdown Int)} {v : Int}
    (h : Finds z (z.wallClock v / 86400) S r) (hz : z.ConstantSince1970 offset)
    (hv : 0 ≤ z.wallClock v) (hS : ∀ l ∈ S, z.wallClock v ≤ l) :
    r = none ∧ (∀ l, l ∉ S) ∨ ∃ l, r = some (.ok (l - offset)) ∧ IsLeast S l := by
  match r with
  | none =>
      refine .inl ⟨rfl, fun l hl => ?_⟩
      have hnone := h l hl
      rw [hz.unique?_eq hv (hS l hl)] at hnone
      cases hnone
  | some (.error b) =>
      obtain ⟨day, hday, hmissing⟩ := h
      rw [hz.hasDay hv hday] at hmissing
      cases hmissing
  | some (.ok u) =>
      obtain ⟨l, hl, hu, hfirst⟩ := h
      rw [hz.unique?_eq hv (hS l hl)] at hu
      obtain rfl := Option.some.inj hu
      refine .inr ⟨l, rfl, hl, fun k hk => Int.not_lt.1 fun hlt => ?_⟩
      have hnone := hfirst k hk hlt
      rw [hz.unique?_eq hv (hS k hk)] at hnone
      cases hnone

/-- The instants that a schedule allows after `start` show the times that it allows from one second
later on. -/
theorem mem_matchesAfter (hz : z.ConstantSince1970 offset)
    (hbase : start.shift? nanosPerSecond = some base) (hfloor : 0 ≤ z.wallClock base.second)
    {i : Instant} : i ∈ matchesAfter z start s.Allows ↔
      base.second ≤ i.second ∧ i.fraction = 0 ∧
        i.second + offset ∈ allowedFrom s (.ofSeconds (z.wallClock base.second)) := by
  have hsecond := Instant.second_of_shift_second hbase
  have hself := hz.wallClock_eq (Int.le_refl _) hfloor
  have hafter : i.fraction = 0 → (start < i ↔ base.second ≤ i.second) := by
    intro h
    rw [Instant.lt_iff_second_lt h, hsecond]
    exact Int.add_one_le_iff.symm
  constructor
  · rintro ⟨hlt, hfraction, hallowed⟩
    have hle := (hafter hfraction).1 hlt
    refine ⟨hle, hfraction, ?_, ?_⟩
    · rw [← hz.wallClock_eq hle hfloor]
      exact hallowed
    · rw [LocalTime.toSeconds_ofSeconds]
      omega
  · rintro ⟨hle, hfraction, hallowed, -⟩
    refine ⟨(hafter hfraction).2 hle, hfraction, ?_⟩
    rw [Zone.localTime, hz.wallClock_eq hle hfloor]
    exact hallowed

/-- **The next instant of a schedule is the first one that it allows.** -/
theorem Schedule.next_isFirstOf (hs : s.IsProper) (hz : z.ConstantSince1970 offset)
    (hbase : start.shift? nanosPerSecond = some base) (hfloor : 0 ≤ z.wallClock base.second)
    (hyear : (z.localTime base).date.year.toNat ∈ s.years ∨
      ∀ y ∈ s.years, (y : Int) < (z.localTime base).date.year) :
    ∃ next?, s.next z start = .ok next? ∧ IsFirstOf (matchesAfter z start s.Allows) next? := by
  have hmem (i : Instant) := mem_matchesAfter (s := s) hz hbase hfloor (i := i)
  have hself := hz.wallClock_eq (Int.le_refl _) hfloor
  have hfinds : Finds z (z.localTime base).date.toDays (allowedFrom s (z.localTime base))
      (s.search? z (z.localTime base)) :=
    finds_search hs (Date.isReal_ofDays _) (LocalTime.isReal_time _) hyear
  rw [Zone.localTime, LocalTime.date_ofSeconds, Date.toDays_ofDays] at hfinds
  have hbound : ∀ l ∈ allowedFrom s (.ofSeconds (z.wallClock base.second)),
      z.wallClock base.second ≤ l := by
    rintro l ⟨-, hle⟩
    rwa [LocalTime.toSeconds_ofSeconds] at hle
  simp only [Schedule.next, hbase]
  rcases hfinds.of_constant hz hfloor hbound with ⟨hnone, hempty⟩ | ⟨l, hsome, hl, hleast⟩
  · rw [hnone]
    exact ⟨none, rfl, fun i hi => hempty _ ((hmem i).1 hi).2.2⟩
  · rw [hsome]
    have hle := hbound l hl
    refine ⟨_, rfl, ?_⟩
    cases hi : Instant.ofSecond? (l - offset) with
    | none =>
        -- the first match is too late to be an instant, and so is every other one
        intro j hj
        obtain ⟨-, -, hj⟩ := (hmem j).1 hj
        have hlater := hleast hj
        have := Instant.second_lt_of_ofSecond?_none hi (i := base) (by omega) j
        omega
    | some i =>
        obtain ⟨hsecond, hfraction⟩ := Instant.second_of_ofSecond? hi
        refine ⟨(hmem i).2 ⟨by omega, hfraction, ?_⟩, fun j hj => ?_⟩
        · rw [hsecond, Int.sub_add_cancel]
          exact hl
        · obtain ⟨-, -, hj⟩ := (hmem j).1 hj
          have hlater := hleast hj
          rw [Instant.le_iff_second_le hfraction]
          omega

/-! ### Schedules without a year -/

/-- The clock is in its one offset at every match. -/
theorem wallClock_of_matchesAfter (hzone : z.ConstantSince1970 offset)
    (hbase : start.shift? nanosPerSecond = some base) (hfloor : 0 ≤ z.wallClock base.second)
    {allowed : LocalTime → Prop} {i : Instant} (hi : i ∈ matchesAfter z start allowed) :
    base.second ≤ i.second ∧ z.wallClock i.second = i.second + offset := by
  obtain ⟨hlt, hfraction, -⟩ := hi
  have hsecond := Instant.second_of_shift_second hbase
  have hle := (Instant.lt_iff_second_lt hfraction).1 hlt
  exact ⟨by omega, hzone.wallClock_eq (by omega) hfloor⟩

/-- The clock does not show a year before 1970 again. -/
theorem le_year_of_matchesAfter (hzone : z.ConstantSince1970 offset)
    (hbase : start.shift? nanosPerSecond = some base) (hfloor : 0 ≤ z.wallClock base.second)
    {allowed : LocalTime → Prop} {i : Instant} (hi : i ∈ matchesAfter z start allowed) :
    1970 ≤ (z.localTime i).date.year := by
  obtain ⟨hle, hshown⟩ := wallClock_of_matchesAfter hzone hbase hfloor hi
  have hself := hzone.wallClock_eq (Int.le_refl _) hfloor
  refine Date.le_year_iff.2 ?_
  show 0 ≤ z.wallClock i.second / 86400
  omega

/-- A schedule without a year allows the matches of its other units up to the end of 2100. -/
theorem mem_matchesAfter_iff {s : Schedule} {allowed : LocalTime → Prop}
    (hallowed : ∀ l, s.AllowsIn positions (.ofSeconds l) ↔ allowed (.ofSeconds l))
    (hyears : s.years = Unit.year.ordinals) (hzone : z.ConstantSince1970 offset)
    (hbase : start.shift? nanosPerSecond = some base) (hfloor : 0 ≤ z.wallClock base.second)
    {i : Instant} : i ∈ matchesAfter z start s.Allows ↔
      i ∈ matchesAfter z start allowed ∧ (z.localTime i).date.year ≤ 2100 := by
  have hyear (y : Int) : y.toNat ∈ s.ordinals .year ↔ 1970 ≤ y.toNat ∧ y.toNat ≤ 2100 := by
    show y.toNat ∈ s.years ↔ _
    rw [hyears]
    exact Unit.mem_between
  constructor
  · rintro ⟨hlt, hfraction, hi⟩
    refine ⟨⟨hlt, hfraction, (hallowed _).1 fun u _ => hi u⟩, ?_⟩
    have := (hyear _).1 (hi .year)
    omega
  · rintro ⟨hi, hle⟩
    have hge := le_year_of_matchesAfter hzone hbase hfloor hi
    obtain ⟨hlt, hfraction, hi⟩ := hi
    have hunits := (hallowed _).2 hi
    refine ⟨hlt, hfraction, fun u => ?_⟩
    cases u with
    | year => exact (hyear _).2 (by omega)
    | _ => exact hunits _ (by simp [positions])

end Cron

end NodeSidecar
