/-
**A calendar timer fires at the earliest match.**

When each field of an expression is read as the unit of its position, the schedule of the expression
allows what the fields denote in all years up to 2100.  In a zone that has had one offset since 1970
a timer with this schedule therefore fires at the earliest instant that the fields denote.

Main definition: `Cron.DenotesTime` — the wall clock times that fields denote.

Main result: `Timer.fires_at_earliest_match`.
-/

import NodeSidecar.Proofs.Cron.Next
import NodeSidecar.Timer

set_option autoImplicit false

namespace NodeSidecar

/-- **Fields denote a wall clock time** when each denotes its ordinal in the unit of the field. -/
def Cron.DenotesTime (terms : Unit → List Term) (c : LocalTime) : Prop :=
  ∀ u ∈ positions, Denotes u (terms u) (c.ordinal u)

namespace Timer

variable {z : Zone} {offset : Int} {start base : Instant}

/-- A calendar timer answers both questions by its schedule. -/
theorem exists_schedule_of_ofExpression {expression : String} {t : Timer}
    (h : ofExpression expression z = .ok t) : ∃ s, Cron.Schedule.ofExpression expression = .ok s ∧
      t = .cron ⟨expression, z, s⟩ := by
  unfold ofExpression at h
  split at h
  · next s hs => exact ⟨s, hs, (Except.ok.inj h).symm⟩
  · cases h

/-- **A calendar timer fires at the earliest match of its fields**, and never when there is none
up to the end of 2100. -/
theorem fires_at_earliest_match {expression : String} {terms : Cron.Unit → List Cron.Term}
    {t : Timer} (ht : ofExpression expression z = .ok t)
    (hread : Cron.ReadInTurn terms Cron.positions (Cron.fieldsOf expression))
    (hzone : z.ConstantSince1970 offset) (hbase : start.shift? nanosPerSecond = some base)
    (hyear : 1970 ≤ (z.localTime base).date.year ∧ (z.localTime base).date.year ≤ 2100) :
    ∃ next?, t.firstFire start = .ok next? ∧ t.nextAfter start = .ok next? ∧
      (∀ i, next? = some i → IsLeast (Cron.matchesAfter z start (Cron.DenotesTime terms)) i) ∧
      (next? = none ↔ ∀ i ∈ Cron.matchesAfter z start (Cron.DenotesTime terms),
        2100 < (z.localTime i).date.year) := by
  obtain ⟨s, hs, rfl⟩ := exists_schedule_of_ofExpression ht
  obtain ⟨hordinals, hyears⟩ := Cron.schedule_of_readInTurn hs hread
  have hfloor : 0 ≤ z.wallClock base.second := by
    have hdays : 0 ≤ z.wallClock base.second / 86400 := Date.le_year_iff.1 hyear.1
    omega
  have hstart : (z.localTime base).date.year.toNat ∈ s.years := by
    rw [hyears]
    exact Cron.Unit.mem_between.2 ⟨by simp only [Cron.Unit.least]; omega,
      by simp only [Cron.Unit.greatest]; omega⟩
  have hallowed (l : Int) : s.AllowsIn Cron.positions (.ofSeconds l) ↔
      Cron.DenotesTime terms (.ofSeconds l) := forall₂_congr fun u hu => hordinals u hu _
  have hmem (i : Instant) : i ∈ Cron.matchesAfter z start s.Allows ↔
      i ∈ Cron.matchesAfter z start (Cron.DenotesTime terms) ∧ (z.localTime i).date.year ≤ 2100 :=
    Cron.mem_matchesAfter_iff hallowed hyears hzone hbase hfloor
  obtain ⟨next?, hnext, hfirst⟩ := Cron.Schedule.next_isFirstOf
    (Cron.isProper_of_ofExpression hs) hzone hbase hfloor (.inl hstart)
  refine ⟨next?, hnext, hnext, ?_, ?_⟩
  · rintro i rfl
    obtain ⟨hi, hleast⟩ := hfirst
    obtain ⟨hi, hle⟩ := (hmem i).1 hi
    refine ⟨hi, fun j hj => ?_⟩
    by_cases hj' : (z.localTime j).date.year ≤ 2100
    · exact hleast ((hmem j).2 ⟨hj, hj'⟩)
    · -- a match in a later year is a later match
      have hshown := (Cron.wallClock_of_matchesAfter hzone hbase hfloor hi).2
      have hshown' := (Cron.wallClock_of_matchesAfter hzone hbase hfloor hj).2
      have hlt : z.wallClock i.second < z.wallClock j.second :=
        Cron.lt_of_earlier (.inl (Int.lt_of_le_of_lt hle (Int.not_le.1 hj')))
      rw [Instant.le_iff_second_le hi.2.1]
      omega
  · cases next? with
    | none =>
        refine iff_of_true rfl fun i hi => Int.not_le.1 fun hle => ?_
        exact hfirst i ((hmem i).2 ⟨hi, hle⟩)
    | some i =>
        obtain ⟨hi, hle⟩ := (hmem i).1 hfirst.1
        exact iff_of_false (by simp) fun h => Int.not_lt.2 hle (h i hi)

/-- The last minute of a 29 February that is a Monday, asked for at that very time: the next one is
28 years later. -/
theorem fires_at_earliest_match_of_leap_monday :
    let expression := "59 23 29 2 Mon"
    let z := Zone.fixed "Etc/GMT+5" (-18000)
    let terms : Cron.Unit → List Cron.Term := fun
      | .second => [.span (.point 0)]
      | .minute => [.span (.point 59)]
      | .hour => [.span (.point 23)]
      | .day => [.span (.point 29)]
      | .month => [.span (.point 2)]
      | .weekday => [.name ['M', 'o', 'n']]
      | .year => []
    let t : Timer :=
      .cron ⟨expression, z, ⟨[0], [59], [23], [29], [2], [2], Cron.Unit.year.ordinals⟩⟩
    let start : Instant := ⟨1456808340 * 1000000000, by decide, by decide⟩
    let base : Instant := ⟨1456808341 * 1000000000, by decide, by decide⟩
    let next : Instant := ⟨2340421140 * 1000000000, by decide, by decide⟩
    ofExpression expression z = .ok t ∧
      Cron.ReadInTurn terms Cron.positions (Cron.fieldsOf expression) ∧
      z.ConstantSince1970 (-18000) ∧ start.shift? nanosPerSecond = some base ∧
      (1970 ≤ (z.localTime base).date.year ∧ (z.localTime base).date.year ≤ 2100) ∧
      t.firstFire start = .ok (some next) ∧
      IsLeast (Cron.matchesAfter z start (Cron.DenotesTime terms)) next := by
  intro expression z terms t start base next
  have hschedule : Cron.Schedule.ofExpression expression =
      .ok ⟨[0], [59], [23], [29], [2], [2], Cron.Unit.year.ordinals⟩ := by
    decide +kernel
  have ht : ofExpression expression z = .ok t := by
    rw [ofExpression, hschedule]
  have hread : Cron.ReadInTurn terms Cron.positions (Cron.fieldsOf expression) := by
    have hfields : Cron.fieldsOf expression = ["0", "59", "23", "29", "2", "Mon"] := by
      decide +kernel
    rw [hfields]
    exact .cons (by decide +kernel) (.cons (by decide +kernel) (.cons (by decide +kernel)
      (.cons (by decide +kernel) (.cons (by decide +kernel) (.cons (by decide +kernel) .nil)))))
  have hzone := Zone.constantSince1970_fixed "Etc/GMT+5" (-18000)
  have hbase : start.shift? nanosPerSecond = some base := by decide
  have hyear : 1970 ≤ (z.localTime base).date.year ∧ (z.localTime base).date.year ≤ 2100 := by
    decide
  obtain ⟨next?, hfirst, -, hleast, -⟩ := fires_at_earliest_match ht hread hzone hbase hyear
  have hnext : t.firstFire start = .ok (some next) := by decide +kernel
  rw [hnext] at hfirst
  exact ⟨ht, hread, hzone, hbase, hyear, hnext, hleast next (Except.ok.inj hfirst).symm⟩

end Timer

end NodeSidecar
