/-
**Timers of one time of day.**

A timer may be set to a time of day in a zone, by an expression that leaves every date open.  Its
search goes through that time on one date after the other, and takes the first that belongs to
exactly one second.  So a date is left out when its clock shows the time twice, having been put
back; and on a date that does not occur in the zone the search breaks down, and with it what is
listed before, unless the clock leaps over the date between two searches.

The law on the times that are kept says just when this happens.  Where all dates occur, it comes
down to one condition: that the clock shows the time once.

Main definitions:

* `LocalTime.since1970`, `Zone.firstSearched` — the wall clock time at which a search begins;
* `Cron.Schedule.IsDaily`, `Cron.dailyTimes` — schedules of one time of day, and their times;
* `Cron.NextAmong` — what comes next, among a set of wall clock times;
* `Zone.ShowsOnce`, `Zone.LeapsOver`, `Zone.Stops` — what a clock shows once, what it leaps over,
  and the missing dates that stop a search;
* `IsKept` — the wall clock times at which a timer fires;
* `dailyExpression` — the expression of a time of day.

Main results:

* `Cron.Schedule.IsDaily.firstResult_search` — the search of a daily schedule;
* `firesAt_iff_isKept` — the instants of a daily timer;
* `daily_times_are_kept_iff` — **a daily timer fires on a date if and only if its time is kept**;
* `repeated_time_is_missed` — the time that a clock shows twice.
-/

import NodeSidecar.Proofs.Timer.Progress

set_option autoImplicit false

namespace NodeSidecar

/-! ### Where a search begins -/

/-- A wall clock time, with its year moved up to 1970.  No schedule allows an earlier year, and a
bound in an earlier year bounds the search in 1970, by its month, day and time. -/
def LocalTime.since1970 (c : LocalTime) : LocalTime :=
  ⟨⟨max c.date.year 1970, c.date.month, c.date.day⟩, c.time⟩

theorem LocalTime.since1970_of_nonneg {l : Int} (h : 0 ≤ l) :
    (ofSeconds l).since1970 = ofSeconds l := by
  have hyear : 1970 ≤ (ofSeconds l).date.year :=
    Date.le_year_iff.2 (show 0 ≤ l / 86400 by omega)
  rw [since1970, max_eq_left hyear]

/-- A bound on 31 December 1969 is moved to the end of the year 1970. -/
theorem LocalTime.since1970_of_neg {l : Int} (h : -86400 ≤ l) (hl : l < 0) :
    (ofSeconds l).since1970 = ofSeconds (l + 365 * 86400) := by
  have hday : l / 86400 = -1 := by omega
  have hday' : (l + 365 * 86400) / 86400 = 364 := by omega
  have htime : (l + 365 * 86400) % 86400 = l % 86400 := by omega
  simp only [since1970, ofSeconds, hday, hday', htime]
  rfl

theorem LocalTime.since1970_eq {l : Int} (h : -86400 ≤ l) :
    ∃ k, (ofSeconds l).since1970 = ofSeconds k ∧ l ≤ k ∧ 0 ≤ k := by
  by_cases hl : 0 ≤ l
  · exact ⟨l, since1970_of_nonneg hl, Int.le_refl l, hl⟩
  · exact ⟨_, since1970_of_neg h (Int.not_le.1 hl), by omega, by omega⟩

/-- **The wall clock time at which the search after an instant begins**: what the clock shows a
second later, but in 1970 when that is an earlier year. -/
def Zone.firstSearched (z : Zone) (i : Instant) : Int :=
  (LocalTime.ofSeconds (z.wallClock (i.second + 1))).since1970.toSeconds

theorem Zone.firstSearched_of_nonneg {z : Zone} {i : Instant}
    (h : 0 ≤ z.wallClock (i.second + 1)) : z.firstSearched i = z.wallClock (i.second + 1) := by
  rw [firstSearched, LocalTime.since1970_of_nonneg h, LocalTime.toSeconds_ofSeconds]

namespace Cron

/-! ### Schedules of one time of day -/

/-- **A schedule of one time of day**, on every date from 1970 to 2100. -/
structure Schedule.IsDaily (s : Schedule) (time : TimeOfDay) : Prop where
  proper : s.IsProper
  years : s.years = Unit.year.ordinals
  allows : ∀ l, s.AllowsIn positions (.ofSeconds l) ↔ l % 86400 = time.toSeconds

/-- The wall clock times, from `lo` to the end of 2100, at a time of day. -/
def dailyTimes (time : TimeOfDay) (lo : Int) : Set Int :=
  {l | lo ≤ l ∧ l < endOfCalendar ∧ l % 86400 = time.toSeconds}

namespace Schedule.IsDaily

variable {s : Schedule} {time : TimeOfDay} {z : Zone} {l u : Int}

theorem weekday_mem (hs : s.IsDaily time) (htime : time.IsReal) (day : Int) :
    Date.weekdayOfDays day ∈ s.weekdays := by
  have hlt := htime.toSeconds_lt
  have hday : (day * 86400 + time.toSeconds) / 86400 = day := by omega
  have hallowed := (hs.allows (day * 86400 + time.toSeconds)).2 (by omega) .weekday (by decide)
  rwa [LocalTime.ordinal, LocalTime.date_ofSeconds, Date.weekday, Date.toDays_ofDays,
    hday] at hallowed

theorem mem_years (hs : s.IsDaily time) {y : Int} :
    y.toNat ∈ s.years ↔ 1970 ≤ y ∧ y ≤ 2100 := by
  rw [hs.years]
  refine Unit.mem_between.trans ?_
  simp only [Unit.least, Unit.greatest]
  omega

theorem allows_iff (hs : s.IsDaily time) (h : 0 ≤ l) :
    s.Allows (.ofSeconds l) ↔ l < endOfCalendar ∧ l % 86400 = time.toSeconds := by
  have hge : 1970 ≤ (LocalTime.ofSeconds l).date.year :=
    Date.le_year_iff.2 (show 0 ≤ l / 86400 by omega)
  have hle : (LocalTime.ofSeconds l).date.year ≤ 2100 ↔ l < endOfCalendar := by
    rw [LocalTime.date_ofSeconds, Date.year_le_iff]
    show l / 86400 < 47847 ↔ l < 47847 * 86400
    omega
  have hyear : (LocalTime.ofSeconds l).ordinal .year ∈ s.ordinals .year ↔
      (LocalTime.ofSeconds l).date.year ≤ 2100 := hs.mem_years.trans (and_iff_right hge)
  rw [← hs.allows, ← hle, ← hyear]
  constructor
  · intro hallowed
    exact ⟨hallowed .year, fun u _ => hallowed u⟩
  · rintro ⟨hyear, hallowed⟩ u
    cases u with
    | year => exact hyear
    | _ => exact hallowed _ (by decide)

/-- A schedule without a year is searched as if the bound were not before 1970. -/
theorem search?_since1970 (hs : s.IsDaily time) (z : Zone) {c : LocalTime}
    (h : 0 ≤ c.date.year) : s.search? z c = s.search? z c.since1970 := by
  have hfilter : (s.years.filter fun y : Nat => decide (c.date.year ≤ (y : Int))) =
      s.years.filter fun y : Nat => decide (c.since1970.date.year ≤ (y : Int)) := by
    refine List.filter_congr fun y hy => ?_
    have hle := (hs.mem_years (y := y)).1 (by rwa [Int.toNat_natCast])
    rw [decide_eq_decide]
    show c.date.year ≤ (y : Int) ↔ max c.date.year 1970 ≤ (y : Int)
    omega
  have hnot : ¬ c.date.year < 0 := by omega
  have hnot' : ¬ c.since1970.date.year < 0 := by
    simp only [LocalTime.since1970]
    omega
  simp only [Schedule.search?, hnot, hnot', if_false, hfilter]
  rfl

/-- **The search of a daily schedule** goes through its time on all dates. -/
theorem firstResult_search (hs : s.IsDaily time) (htime : time.IsReal) (h : -86400 ≤ l) :
    FirstResult (dailyTimes time (LocalTime.ofSeconds l).since1970.toSeconds) (s.outcome z)
      (s.search? z (.ofSeconds l)) := by
  have hyear : 0 ≤ (LocalTime.ofSeconds l).date.year :=
    Int.le_trans (by decide) (Date.le_year_iff (y := 1969).2 (show -365 ≤ l / 86400 by omega))
  obtain ⟨k, hk, -, hnonneg⟩ := LocalTime.since1970_eq h
  have hbound : (LocalTime.ofSeconds k).date.year.toNat ∈ s.years ∨
      ∀ y ∈ s.years, (y : Int) < (LocalTime.ofSeconds k).date.year := by
    have hge : 1970 ≤ (LocalTime.ofSeconds k).date.year :=
      Date.le_year_iff.2 (show 0 ≤ k / 86400 by omega)
    by_cases hle : (LocalTime.ofSeconds k).date.year ≤ 2100
    · exact .inl (hs.mem_years.2 ⟨hge, hle⟩)
    · refine .inr fun y hy => ?_
      have := (hs.mem_years (y := y)).1 (by rwa [Int.toNat_natCast])
      omega
  rw [hs.search?_since1970 z hyear, hk]
  refine (Cron.firstResult_search hs.proper z (Date.isReal_ofDays _) (LocalTime.isReal_time k)
    hbound).of_iff fun m => ?_
  have hany : s.onAnyWeekday.Allows (.ofSeconds m) ↔ s.Allows (.ofSeconds m) := by
    rw [Schedule.allows_iff_onAnyWeekday (s := s)]
    exact (and_iff_left (hs.weekday_mem htime _)).symm
  have hfrom : m ∈ allowedFrom s.onAnyWeekday (.ofSeconds k) ↔
      s.Allows (.ofSeconds m) ∧ k ≤ m := by
    rw [← hany]
    show _ ∧ (LocalTime.ofSeconds k).toSeconds ≤ m ↔ _
    rw [LocalTime.toSeconds_ofSeconds]
  rw [LocalTime.toSeconds_ofSeconds, hfrom]
  constructor
  · rintro ⟨hle, hm⟩
    exact ⟨(hs.allows_iff (Int.le_trans hnonneg hle)).2 hm, hle⟩
  · rintro ⟨hm, hle⟩
    exact ⟨hle, (hs.allows_iff (Int.le_trans hnonneg hle)).1 hm⟩

theorem outcome_eq_ok (hs : s.IsDaily time) (htime : time.IsReal) :
    s.outcome z l = some (.ok u) ↔ z.hasDay (l / 86400) = true ∧ z.unique? l = some u := by
  rw [Schedule.outcome_eq_ok]
  exact and_congr_right fun _ => and_iff_right (hs.weekday_mem htime _)

theorem outcome_eq_none (hs : s.IsDaily time) (htime : time.IsReal) :
    s.outcome z l = none ↔ z.hasDay (l / 86400) = true ∧ z.unique? l = none := by
  rw [Schedule.outcome_eq_none]
  exact and_congr_right fun _ => forall_prop_of_true (hs.weekday_mem htime _)

end Schedule.IsDaily

/-! ### What comes next -/

/-- **What comes next among a set of wall clock times**: nothing, when none of them belongs to
exactly one second; the instant of the first that does; or a breakdown, at a date that does not
occur and comes before it. -/
inductive NextAmong (z : Zone) (S : Set Int) : Except Breakdown (Option Instant) → Prop
  | ended (h : ∀ l ∈ S, z.hasDay (l / 86400) = true ∧ z.unique? l = none) : NextAmong z S (.ok none)
  | found {l : Int} {i : Instant} (hl : l ∈ S) (hday : z.hasDay (l / 86400) = true)
      (hwhole : i.fraction = 0) (hunique : z.unique? l = some i.second)
      (hfirst : ∀ k ∈ S, k < l → z.hasDay (k / 86400) = true ∧ z.unique? k = none) :
      NextAmong z S (.ok (some i))
  | missing {l : Int} (hl : l ∈ S) (hday : z.hasDay (l / 86400) = false)
      (hfirst : ∀ k ∈ S, k < l → z.hasDay (k / 86400) = true ∧ z.unique? k = none) :
      NextAmong z S (.error .missingDate)

end Cron

variable {s : Cron.Schedule} {time : TimeOfDay} {z : Zone} {S : Set Int} {l lo u : Int}
  {start i : Instant}

theorem Zone.WithinADay.le_firstSearched (hz : z.WithinADay) (h : 0 ≤ i.second) :
    0 ≤ z.firstSearched i ∧ z.wallClock (i.second + 1) ≤ z.firstSearched i := by
  have hoffset := hz.offsetAt (i.second + 1)
  obtain ⟨k, hk, hle, hnonneg⟩ := LocalTime.since1970_eq (l := z.wallClock (i.second + 1))
    (by simp only [Zone.wallClock]; omega)
  rw [Zone.firstSearched, hk, LocalTime.toSeconds_ofSeconds]
  exact ⟨hnonneg, hle⟩

/-- The times of a search belong to seconds after its start that are representable. -/
theorem Zone.WithinADay.second_of_mem (hz : z.WithinADay) (h₀ : 0 ≤ start.second)
    (hl : l ∈ Cron.dailyTimes time (z.firstSearched start)) (hu : z.unique? l = some u) :
    start.second < u ∧ u < endOfCalendar + 86400 := by
  obtain ⟨hle, hend, -⟩ := hl
  have hshown : u + z.offsetAt u = l := Zone.wallClock_of_unique? hu
  have hoffset := hz.offsetAt u
  have hfrom := (Zone.wallClock_le_iff hu).1 (Int.le_trans (hz.le_firstSearched h₀).2 hle)
  omega

/-- **The next instant of a daily schedule.** -/
theorem Cron.Schedule.IsDaily.next_among (hs : s.IsDaily time) (htime : time.IsReal)
    (hz : z.WithinADay) (h₀ : 0 ≤ i.second) (h₁ : i.second < endOfCalendar + 86400) :
    NextAmong z (dailyTimes time (z.firstSearched i)) (s.next z i) := by
  have hend : endOfCalendar = 4133980800 := rfl
  obtain ⟨base, hbase⟩ := exists_shift_second h₀ (by omega)
  have hoffset := hz.offsetAt (i.second + 1)
  have hsearch := hs.firstResult_search htime (z := z) (l := z.wallClock (i.second + 1))
    (by simp only [Zone.wallClock]; omega)
  simp only [Schedule.next, hbase, Instant.second_of_shift_second hbase]
  generalize s.search? z (.ofSeconds (z.wallClock (i.second + 1))) = r at hsearch ⊢
  cases r with
  | none => exact .ended fun l hl => (hs.outcome_eq_none htime).1 (hsearch l hl)
  | some found =>
      obtain ⟨l, hl, hfound, hfirst⟩ := hsearch
      have hfirst : ∀ k ∈ dailyTimes time (z.firstSearched i), k < l →
          z.hasDay (k / 86400) = true ∧ z.unique? k = none :=
        fun k hk hlt => (hs.outcome_eq_none htime).1 (hfirst k hk hlt)
      cases found with
      | ok u =>
          obtain ⟨hday, hunique⟩ := (hs.outcome_eq_ok htime).1 hfound
          obtain ⟨hlower, hupper⟩ := hz.second_of_mem h₀ hl hunique
          obtain ⟨j, hj⟩ : ∃ j, Instant.ofSecond? u = some j :=
            exists_ofSecond? (by omega) (by omega)
          obtain ⟨hsecond, hwhole⟩ := Instant.second_of_ofSecond? hj
          simp only [hj]
          exact .found hl hday hwhole (hsecond ▸ hunique) hfirst
      | error b =>
          obtain ⟨hday, rfl⟩ := Schedule.outcome_eq_error.1 hfound
          exact .missing hl hday hfirst

/-! ### Times that are kept -/

/-- A clock shows a time once when it does so at exactly one second. -/
def Zone.ShowsOnce (z : Zone) (l : Int) : Prop := ∃! u, z.wallClock u = l

theorem Zone.showsOnce_iff : z.ShowsOnce l ↔ ∃ u, z.unique? l = some u := by
  simp only [unique?_eq_some_iff]
  constructor
  · rintro ⟨u, hu, honly⟩
    exact ⟨u, fun v => ⟨honly v, fun h => h ▸ hu⟩⟩
  · rintro ⟨u, hu⟩
    exact ⟨u, (hu u).2 rfl, fun v => (hu v).1⟩

theorem Zone.showsOnce_wallClock :
    z.ShowsOnce (z.wallClock u) ↔ z.unique? (z.wallClock u) = some u := by
  rw [showsOnce_iff]
  constructor
  · rintro ⟨v, hv⟩
    obtain rfl := (unique?_eq_some_iff.1 hv u).1 rfl
    exact hv
  · exact fun h => ⟨u, h⟩

/-- **A clock leaps over a time** when it is put forward over it right behind a time of the set that
it shows once. -/
def Zone.LeapsOver (z : Zone) (S : Set Int) (k : Int) : Prop :=
  ∃ v, z.wallClock v ∈ S ∧ z.ShowsOnce (z.wallClock v) ∧ z.wallClock v < k ∧
    k < z.wallClock (v + 1)

/-- **A missing date stops a search** at one of its times, unless the clock leaps over it. -/
structure Zone.Stops (z : Zone) (S : Set Int) (k : Int) : Prop where
  mem : k ∈ S
  missing : z.hasDay (k / 86400) = false
  met : ¬ z.LeapsOver S k

theorem Zone.Stops.hasDay_ne {k : Int} (h : z.Stops S k) : z.hasDay (k / 86400) ≠ true := by
  rw [h.missing]
  exact Bool.false_ne_true

/-- **A time of a set is kept** when the clock shows it once, and between it and each missing date
that stops the search there is another such time. -/
structure IsKept (z : Zone) (S : Set Int) (l : Int) : Prop where
  mem : l ∈ S
  once : z.ShowsOnce l
  unstopped : ∀ k, z.Stops S k → ∃ m ∈ S, l < m ∧ m < k ∧ z.ShowsOnce m

/-- An instant that a search comes to: its time is shown once, and it has not been stopped. -/
structure IsMet (z : Zone) (S : Set Int) (i : Instant) : Prop where
  whole : i.fraction = 0
  mem : z.wallClock i.second ∈ S
  once : z.unique? (z.wallClock i.second) = some i.second
  unstopped : ∀ k, z.Stops S k → z.wallClock i.second < k

theorem IsMet.unique?_ne (h : IsMet z S i) : z.unique? (z.wallClock i.second) ≠ none := by
  rw [h.once]
  exact Option.some_ne_none i.second

theorem IsKept.isMet (h : IsKept z S (z.wallClock i.second)) (hi : i.fraction = 0) :
    IsMet z S i where
  whole := hi
  mem := h.mem
  once := Zone.showsOnce_wallClock.1 h.once
  unstopped k hk := by
    obtain ⟨m, -, hlt, hlt', -⟩ := h.unstopped k hk
    omega

/-- A search may begin at a time when the clock leaps over it behind no time of the set. -/
def Clear (z : Zone) (S : Set Int) (lo : Int) : Prop :=
  ∀ v, z.wallClock v ∈ S → z.ShowsOnce (z.wallClock v) → z.wallClock v < lo →
    z.wallClock (v + 1) ≤ lo

theorem lt_wallClock_succ (h : z.unique? (z.wallClock u) = some u) :
    z.wallClock u < z.wallClock (u + 1) := by
  have hle := (Zone.le_wallClock_iff h).2 (show u ≤ u + 1 by omega)
  have hne := (Zone.unique?_eq_some_iff.1 h (u + 1)).1
  omega

/-- Behind a time that is shown once the search may begin. -/
theorem clear_succ (h : z.unique? (z.wallClock u) = some u) :
    Clear z S (z.wallClock (u + 1)) := by
  intro v _ honce hlt
  have hv := Zone.showsOnce_wallClock.1 honce
  have hle := (Zone.le_wallClock_iff hv).1 (Int.le_of_lt hlt)
  have hne : v ≠ u + 1 := by
    rintro rfl
    omega
  rcases Int.lt_or_eq_of_le (show v ≤ u by omega) with hlt' | rfl
  · have hbefore := (Zone.wallClock_le_iff h).2 (show v + 1 ≤ u by omega)
    have := lt_wallClock_succ h
    omega
  · exact Int.le_refl _

theorem Clear.stops (hlo : Clear z S lo) {k : Int} (hk : k ∈ S) (hle : lo ≤ k)
    (hday : z.hasDay (k / 86400) = false)
    (hfirst : ∀ m ∈ {l ∈ S | lo ≤ l}, m < k → z.hasDay (m / 86400) = true ∧ z.unique? m = none) :
    z.Stops S k := by
  refine ⟨hk, hday, ?_⟩
  rintro ⟨v, hv, honce, hlt, hleap⟩
  by_cases hlov : lo ≤ z.wallClock v
  · have hnone := (hfirst _ ⟨hv, hlov⟩ hlt).2
    rw [Zone.showsOnce_wallClock.1 honce] at hnone
    cases hnone
  · have := hlo v hv honce (Int.not_le.1 hlov)
    omega

/-- What stops a search behind an instant is met by the search that begins there. -/
theorem IsMet.le_of_stops (hi : IsMet z S i) {k : Int} (hk : z.Stops S k) :
    z.wallClock (i.second + 1) ≤ k := by
  by_contra hlt
  exact hk.met ⟨i.second, hi.mem, Zone.showsOnce_wallClock.2 hi.once, hi.unstopped k hk,
    Int.not_le.1 hlt⟩

namespace Cron.NextAmong

variable {r : Except Breakdown (Option Instant)}

/-- What is found comes before all that stops the search. -/
theorem isMet (h : NextAmong z {l ∈ S | lo ≤ l} (.ok (some i)))
    (hlo : ∀ k, z.Stops S k → lo ≤ k) : IsMet z S i := by
  cases h with
  | @found l _ hl hday hwhole hunique hfirst =>
      obtain rfl := Zone.wallClock_of_unique? hunique
      refine ⟨hwhole, hl.1, hunique, fun k hk => ?_⟩
      rcases Int.lt_trichotomy k (z.wallClock i.second) with hlt | rfl | hlt
      · exact absurd (hfirst k ⟨hk.mem, hlo k hk⟩ hlt).1 hk.hasDay_ne
      · exact absurd hday hk.hasDay_ne
      · exact hlt

/-- A search finds something up to each time that it can come to. -/
theorem exists_found (h : NextAmong z {l ∈ S | lo ≤ l} r) (hlo : Clear z S lo)
    (hi : IsMet z S i) (hle : lo ≤ z.wallClock i.second) :
    ∃ j, r = .ok (some j) ∧ j ≤ i := by
  cases h with
  | ended hnone => exact absurd (hnone _ ⟨hi.mem, hle⟩).2 hi.unique?_ne
  | @found l j hl hday hwhole hunique hfirst =>
      refine ⟨j, rfl, (Instant.le_iff_second_le hwhole).2 (Int.not_lt.1 fun hlt => ?_)⟩
      have hpassed := hfirst _ ⟨hi.mem, hle⟩ ((Zone.wallClock_lt_iff hunique).2 hlt)
      exact absurd hpassed.2 hi.unique?_ne
  | @missing k hk hday hfirst =>
      have hlt := hi.unstopped k (hlo.stops hk.1 hk.2 hday hfirst)
      exact absurd (hfirst _ ⟨hi.mem, hle⟩ hlt).2 hi.unique?_ne

/-- **The search behind an instant gives an answer** if and only if the time of the instant is
kept. -/
theorem answers_iff (h : NextAmong z {l ∈ S | z.wallClock (i.second + 1) ≤ l} r)
    (hi : IsMet z S i) : (∃ next?, r = .ok next?) ↔ IsKept z S (z.wallClock i.second) := by
  have honce := Zone.showsOnce_wallClock.2 hi.once
  constructor
  · rintro ⟨next?, rfl⟩
    refine ⟨hi.mem, honce, fun k hk => ?_⟩
    have hle := hi.le_of_stops hk
    cases h with
    | ended hnone => exact absurd (hnone k ⟨hk.mem, hle⟩).1 hk.hasDay_ne
    | @found m j hm hday hwhole hunique hfirst =>
        have hlater := Int.lt_of_lt_of_le (lt_wallClock_succ hi.once) hm.2
        refine ⟨m, hm.1, hlater, ?_, Zone.showsOnce_iff.2 ⟨_, hunique⟩⟩
        rcases Int.lt_trichotomy k m with hlt | rfl | hlt
        · exact absurd (hfirst k ⟨hk.mem, hle⟩ hlt).1 hk.hasDay_ne
        · exact absurd hday hk.hasDay_ne
        · exact hlt
  · intro hkept
    cases h with
    | ended => exact ⟨none, rfl⟩
    | found => exact ⟨_, rfl⟩
    | @missing k hk hday hfirst =>
        have hstops := (clear_succ hi.once).stops hk.1 hk.2 hday hfirst
        obtain ⟨m, hm, hlt, hltk, hshown⟩ := hkept.unstopped k hstops
        obtain ⟨w, hw⟩ := Zone.showsOnce_iff.1 hshown
        have hlater := (Zone.wallClock_lt_iff hw).1 hlt
        have := (hfirst m ⟨hm, (Zone.wallClock_le_iff hw).2 hlater⟩ hltk).2
        rw [hw] at this
        cases this

end Cron.NextAmong

/-! ### The instants of a daily timer -/

section Timer

variable (expression : String)

/-- Behind an instant that is met, the search goes on among the times still ahead. -/
theorem nextAmong_of_isMet (hs : s.IsDaily time) (htime : time.IsReal) (hz : z.WithinADay)
    (h₀ : 0 ≤ start.second) (hi : IsMet z (Cron.dailyTimes time (z.firstSearched start)) i) :
    Cron.NextAmong z {l ∈ Cron.dailyTimes time (z.firstSearched start) |
      z.wallClock (i.second + 1) ≤ l} ((Timer.cron ⟨expression, z, s⟩).nextAfter i) := by
  obtain ⟨hlower, hupper⟩ := hz.second_of_mem h₀ hi.mem hi.once
  have hbound := (hz.le_firstSearched h₀).1
  have hlater := lt_wallClock_succ hi.once
  have hle : z.firstSearched start ≤ z.wallClock i.second := hi.mem.1
  have hnext := hs.next_among htime hz (i := i) (by omega) hupper
  rw [Zone.firstSearched_of_nonneg (by omega)] at hnext
  have hset : Cron.dailyTimes time (z.wallClock (i.second + 1)) =
      {l ∈ Cron.dailyTimes time (z.firstSearched start) | z.wallClock (i.second + 1) ≤ l} := by
    ext l
    constructor
    · rintro ⟨hl, hrest⟩
      exact ⟨⟨by omega, hrest⟩, hl⟩
    · rintro ⟨⟨-, hrest⟩, hl⟩
      exact ⟨hl, hrest⟩
  rwa [hset] at hnext

theorem nextAmong_first (hs : s.IsDaily time) (htime : time.IsReal) (hz : z.WithinADay)
    (h₀ : 0 ≤ start.second) (h₁ : start.second < endOfCalendar) :
    Cron.NextAmong z {l ∈ Cron.dailyTimes time (z.firstSearched start) | z.firstSearched start ≤ l}
      ((Timer.cron ⟨expression, z, s⟩).firstFire start) := by
  have hnext := hs.next_among htime hz h₀ (show start.second < endOfCalendar + 86400 by omega)
  have hall : {l ∈ Cron.dailyTimes time (z.firstSearched start) | z.firstSearched start ≤ l} =
      Cron.dailyTimes time (z.firstSearched start) :=
    Set.sep_eq_self_iff_mem_true.2 fun l hl => hl.1
  rw [hall]
  exact hnext

variable {expression}

/-- **A daily timer reaches the instants that its search comes to.** -/
theorem reaches_iff_isMet (hs : s.IsDaily time) (htime : time.IsReal) (hz : z.WithinADay)
    (h₀ : 0 ≤ start.second) (h₁ : start.second < endOfCalendar) :
    (Timer.cron ⟨expression, z, s⟩).Reaches start i ↔
      IsMet z (Cron.dailyTimes time (z.firstSearched start)) i := by
  have hfirst := nextAmong_first expression hs htime hz h₀ h₁
  have hmet {k : Nat} {i : Instant}
      (hk : (Timer.cron ⟨expression, z, s⟩).upcoming start k = .ok (some i)) :
      IsMet z (Cron.dailyTimes time (z.firstSearched start)) i := by
    induction k generalizing i with
    | zero =>
        rw [show (Timer.cron ⟨expression, z, s⟩).firstFire start = .ok (some i) from hk] at hfirst
        exact hfirst.isMet fun k hk => hk.mem.1
    | succ k ih =>
        obtain ⟨j, hj, hnext⟩ := Timer.exists_previous hk
        have hj := ih hj
        have hamong := nextAmong_of_isMet expression hs htime hz h₀ hj
        rw [hnext] at hamong
        exact hamong.isMet fun k => hj.le_of_stops
  constructor
  · rintro ⟨k, hk⟩
    exact hmet hk
  · intro hi
    refine Timer.reaches_of_steps (Timer.increasing_cron hs.proper) ?_ ?_
    · exact hfirst.exists_found (fun v hv _ hlt => absurd hv.1 (Int.not_le.2 hlt)) hi hi.mem.1
    · rintro j ⟨k, hk⟩ hlt
      have hj := hmet hk
      have hlater := (Instant.lt_iff_second_lt hi.whole).1 hlt
      exact (nextAmong_of_isMet _ hs htime hz h₀ hj).exists_found (clear_succ hj.once) hi
        ((Zone.wallClock_le_iff hi.once).2 hlater)

/-- **The instants of a daily timer are those whose time is kept.** -/
theorem firesAt_iff_isKept (hs : s.IsDaily time) (htime : time.IsReal) (hz : z.WithinADay)
    (h₀ : 0 ≤ start.second) (h₁ : start.second < endOfCalendar) :
    (Timer.cron ⟨expression, z, s⟩).FiresAt start i ↔ i.fraction = 0 ∧
      IsKept z (Cron.dailyTimes time (z.firstSearched start)) (z.wallClock i.second) := by
  rw [Timer.firesAt_iff, reaches_iff_isMet hs htime hz h₀ h₁]
  constructor
  · rintro ⟨hi, hnext⟩
    exact ⟨hi.whole, ((nextAmong_of_isMet _ hs htime hz h₀ hi).answers_iff hi).1 hnext⟩
  · rintro ⟨hwhole, hkept⟩
    have hi := hkept.isMet hwhole
    exact ⟨hi, ((nextAmong_of_isMet _ hs htime hz h₀ hi).answers_iff hi).2 hkept⟩

end Timer

/-! ### Timers for one time of day -/

/-- **The expression of a time of day** leaves every date open. -/
def dailyExpression (time : TimeOfDay) : String :=
  toString time.second ++ " " ++ toString time.minute ++ " " ++ toString time.hour ++ " * * ?"

theorem exists_daily_schedule (htime : time.IsReal) :
    ∃ s, Cron.Schedule.ofExpression (dailyExpression time) = .ok s ∧ s.IsDaily time := by
  have hrange : (RegularTimer.daily time.hour time.minute time.second).InRange := by
    obtain ⟨hhour, hminute, hsecond⟩ := htime
    simp only [RegularTimer.InRange, RegularTimer.settings, List.forall_mem_cons,
      TimeField.greatest]
    exact ⟨by omega, by omega, by omega, List.forall_mem_nil _⟩
  obtain ⟨s, hs, hyears, hallowed⟩ := RegularTimer.exists_schedule_of_words hrange
  rw [RegularTimer.intercalate_words_daily] at hs
  refine ⟨s, hs, Cron.isProper_of_ofExpression hs, hyears, fun l => ?_⟩
  rw [hallowed, RegularTimer.shows_iff hrange]
  rfl

/-- A clock shows a date and a time of day at the seconds of that wall clock time. -/
theorem localTime_eq_iff {d : Date} (hd : d.IsReal) (htime : time.IsReal) :
    z.localTime i = ⟨d, time⟩ ↔ z.wallClock i.second = LocalTime.toSeconds ⟨d, time⟩ := by
  constructor
  · intro h
    rw [← h, Zone.localTime, LocalTime.toSeconds_ofSeconds]
  · intro h
    have hlt := htime.toSeconds_lt
    have hday : (d.toDays * 86400 + time.toSeconds) / 86400 = d.toDays := by omega
    have hrest : ((d.toDays * 86400 + time.toSeconds) % 86400).toNat = time.toSeconds := by omega
    rw [Zone.localTime, h]
    simp only [LocalTime.ofSeconds, LocalTime.toSeconds, hday, hrest, Date.ofDays_toDays hd,
      TimeOfDay.ofSeconds_toSeconds htime]

/-- Where no date is missing, a time is kept when it is shown once. -/
theorem isKept_iff_showsOnce (hall : ∀ k ∈ S, z.hasDay (k / 86400) = true) :
    IsKept z S l ↔ l ∈ S ∧ z.ShowsOnce l := by
  constructor
  · intro h
    exact ⟨h.mem, h.once⟩
  · rintro ⟨hmem, honce⟩
    exact ⟨hmem, honce, fun k hk => absurd (hall k hk.mem) hk.hasDay_ne⟩

/-- The time of a date up to 2100 at which an instant after the start is shown is one of those that
are searched. -/
theorem mem_dailyTimes_of_after (htime : time.IsReal) (hfrom : 0 ≤ z.wallClock (start.second + 1))
    {d : Date} (hd : d.IsReal) (hyear : d.year ≤ 2100) (hi : start < i) (hwhole : i.fraction = 0)
    (hshown : z.wallClock i.second = LocalTime.toSeconds ⟨d, time⟩)
    (honce : z.ShowsOnce (LocalTime.toSeconds ⟨d, time⟩)) :
    LocalTime.toSeconds ⟨d, time⟩ ∈ Cron.dailyTimes time (z.firstSearched start) := by
  have hlt := htime.toSeconds_lt
  have hend : endOfCalendar = Date.toDays ⟨2100 + 1, 1, 1⟩ * 86400 := rfl
  have hseconds : LocalTime.toSeconds ⟨d, time⟩ = d.toDays * 86400 + time.toSeconds := rfl
  rw [← Date.ofDays_toDays hd, Date.year_le_iff] at hyear
  rw [← hshown] at honce
  have hunique := Zone.showsOnce_wallClock.1 honce
  have hlater := (Instant.lt_iff_second_lt hwhole).1 hi
  refine ⟨?_, ?_, ?_⟩
  · rw [Zone.firstSearched_of_nonneg hfrom, ← hshown]
    exact (Zone.wallClock_le_iff hunique).2 hlater
  · rw [hend, hseconds]
    omega
  · rw [hseconds]
    omega

/-- The dates on which a daily timer fires. -/
theorem exists_firesAt_iff {expression : String} (hs : s.IsDaily time) (htime : time.IsReal)
    (hz : z.WithinADay) (h₀ : 0 ≤ start.second) (h₁ : start.second < endOfCalendar) {d : Date}
    (hd : d.IsReal) :
    (∃ i, (Timer.cron ⟨expression, z, s⟩).FiresAt start i ∧ z.localTime i = ⟨d, time⟩) ↔
      IsKept z (Cron.dailyTimes time (z.firstSearched start)) (LocalTime.toSeconds ⟨d, time⟩) := by
  constructor
  · rintro ⟨i, hi, hshown⟩
    rw [localTime_eq_iff hd htime] at hshown
    rw [← hshown]
    exact ((firesAt_iff_isKept hs htime hz h₀ h₁).1 hi).2
  · intro hkept
    obtain ⟨u, hu⟩ := Zone.showsOnce_iff.1 hkept.once
    have hend : endOfCalendar = 4133980800 := rfl
    have hbounds := hz.second_of_mem h₀ hkept.mem hu
    obtain ⟨i, hi⟩ : ∃ i, Instant.ofSecond? u = some i := exists_ofSecond? (by omega) (by omega)
    obtain ⟨hsecond, hwhole⟩ := Instant.second_of_ofSecond? hi
    have hshown : z.wallClock i.second = LocalTime.toSeconds ⟨d, time⟩ := by
      rw [hsecond, Zone.wallClock_of_unique? hu]
    refine ⟨i, (firesAt_iff_isKept hs htime hz h₀ h₁).2 ⟨hwhole, ?_⟩,
      (localTime_eq_iff hd htime).2 hshown⟩
    rwa [hshown]

/-- **A daily timer fires on a date if and only if its time is kept there.**  In a zone in which all
dates occur since 1970, these are the dates on which the clock shows the time once. -/
theorem daily_times_are_kept_iff (htime : time.IsReal) (hz : z.WithinADay)
    (hyear : 1970 ≤ (Zone.utc.localTime start).date.year ∧
      (Zone.utc.localTime start).date.year ≤ 2100) :
    ∃ t, Timer.ofExpression (dailyExpression time) z = .ok t ∧
      (∀ d : Date, d.IsReal → ((∃ i, t.FiresAt start i ∧ z.localTime i = ⟨d, time⟩) ↔
        IsKept z (Cron.dailyTimes time (z.firstSearched start)) (LocalTime.toSeconds ⟨d, time⟩))) ∧
      ((∀ day, 0 ≤ day → z.hasDay day = true) → 0 ≤ z.wallClock (start.second + 1) →
        ∀ d : Date, d.year ≤ 2100 →
          (∃ i, start < i ∧ i.fraction = 0 ∧ z.localTime i = ⟨d, time⟩) →
          ((∃ i, t.FiresAt start i ∧ z.localTime i = ⟨d, time⟩) ↔
            z.ShowsOnce (LocalTime.toSeconds ⟨d, time⟩))) := by
  obtain ⟨s, hs, hdaily⟩ := exists_daily_schedule htime
  have h₀ := le_year_utc_iff.1 hyear.1
  have h₁ := year_utc_le_iff.1 hyear.2
  refine ⟨_, by rw [Timer.ofExpression, hs], fun d hd => exists_firesAt_iff hdaily htime hz h₀ h₁ hd,
    ?_⟩
  rintro hall hfrom d hle ⟨i, hi, hwhole, hshown⟩
  obtain rfl : Date.ofDays (z.wallClock i.second / 86400) = d := congrArg LocalTime.date hshown
  have hd := Date.isReal_ofDays (z.wallClock i.second / 86400)
  rw [localTime_eq_iff hd htime] at hshown
  have hdates : ∀ k ∈ Cron.dailyTimes time (z.firstSearched start),
      z.hasDay (k / 86400) = true := by
    intro k hk
    have hle := hk.1
    rw [Zone.firstSearched_of_nonneg hfrom] at hle
    exact hall _ (by omega)
  rw [exists_firesAt_iff hdaily htime hz h₀ h₁ hd, isKept_iff_showsOnce hdates]
  exact and_iff_right_of_imp (mem_dailyTimes_of_after htime hfrom hd hle hi hwhole hshown)

/-- On the day before the clock is put back, a timer for half past two is started.  It fires a day
after that night. -/
theorem daily_times_are_kept_iff_of_next_night :
    let time : TimeOfDay := ⟨2, 30, 0⟩
    let start : Instant := ⟨1729944000 * 1000000000, by decide, by decide⟩
    time.IsReal ∧ Zone.seasonal.WithinADay ∧
      (1970 ≤ (Zone.utc.localTime start).date.year ∧
        (Zone.utc.localTime start).date.year ≤ 2100) ∧
      ∃ t, Timer.ofExpression (dailyExpression time) Zone.seasonal = .ok t ∧
        ∃ i, t.FiresAt start i ∧ Zone.seasonal.localTime i = ⟨⟨2024, 10, 28⟩, time⟩ := by
  intro time start
  have htime : time.IsReal := ⟨by decide, by decide, by decide⟩
  have hz : Zone.seasonal.WithinADay := by decide
  have hyear : 1970 ≤ (Zone.utc.localTime start).date.year ∧
      (Zone.utc.localTime start).date.year ≤ 2100 := by decide
  obtain ⟨t, ht, -, hdates⟩ := daily_times_are_kept_iff htime hz hyear
  have honce : Zone.seasonal.ShowsOnce (LocalTime.toSeconds ⟨⟨2024, 10, 28⟩, time⟩) :=
    Zone.showsOnce_iff.2 ⟨1730079000, by decide⟩
  refine ⟨htime, hz, hyear, t, ht, ?_⟩
  exact (hdates (fun day _ => Zone.hasDay_seasonal day) (by decide) ⟨2024, 10, 28⟩ (by decide)
    ⟨⟨1730079000 * 1000000000, by decide, by decide⟩, by decide, by decide, by decide⟩).2 honce

/-- **The night in which the clock is put back is left out**, though the clock shows half past two
in it, after the start, even twice. -/
theorem repeated_time_is_missed :
    let time : TimeOfDay := ⟨2, 30, 0⟩
    let start : Instant := ⟨1729944000 * 1000000000, by decide, by decide⟩
    ∃ t, Timer.ofExpression (dailyExpression time) Zone.seasonal = .ok t ∧
      (∃ i, start < i ∧ i.fraction = 0 ∧ Zone.seasonal.localTime i = ⟨⟨2024, 10, 27⟩, time⟩) ∧
      ¬ ∃ i, t.FiresAt start i ∧ Zone.seasonal.localTime i = ⟨⟨2024, 10, 27⟩, time⟩ := by
  intro time start
  have htime : time.IsReal := ⟨by decide, by decide, by decide⟩
  obtain ⟨s, hs, hdaily⟩ := exists_daily_schedule htime
  refine ⟨_, by rw [Timer.ofExpression, hs],
    ⟨⟨1729989000 * 1000000000, by decide, by decide⟩, by decide, by decide, by decide⟩, ?_⟩
  rw [exists_firesAt_iff hdaily htime (by decide) (by decide) (by decide)
    ⟨by decide, by decide, by decide, by decide⟩]
  intro hkept
  obtain ⟨u, -, honly⟩ := hkept.once
  have hfirst := honly 1729989000 (by decide)
  have hsecond := honly 1729992600 (by decide)
  omega

/-- The expression names the second first. -/
example : dailyExpression ⟨2, 30, 0⟩ = "0 30 2 * * ?" := by decide

end NodeSidecar
