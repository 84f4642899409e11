/-
**The schedule that an expression is read as.**

An expression is read unit by unit from the text of its fields with blanks between them.  When the
reading of each unit takes exactly the field at its position, the schedule holds what the fields
denote and, as no field is left for the years, all years.

Main definitions:

* `Cron.fieldsOf` — the fields of an expression, that for the second included;
* `Cron.ReadInTurn` — the fields are read one by one, each as one unit.

Main results:

* `Cron.isProper_of_ofExpression` — a schedule that is read is proper;
* `Cron.exists_schedule_of_readInTurn` — fields that are read in turn make up a schedule;
* `Cron.schedule_of_readInTurn` — **a schedule whose fields are read in turn allows what they
  denote.**
-/

import NodeSidecar.Proofs.Cron.Fields
import NodeSidecar.Proofs.Cron.Search

set_option autoImplicit false

namespace NodeSidecar.Cron

/-! ### Reading a schedule -/

/-- The units that have a field in every expression, in the order of the fields. -/
def positions : List Unit := [.second, .minute, .hour, .day, .month, .weekday]

theorem field?_eq_some {u : Unit} {cs rest : List Char} {ns : List Nat} :
    field? u cs = some (ns, rest) ↔
      ∃ terms, terms? u.allowsAny cs = some (terms, rest) ∧ fieldOrdinals? u terms = some ns := by
  simp only [field?, bind, Option.bind_eq_some_iff, pure, Option.some.injEq, Prod.mk.injEq]
  constructor
  · rintro ⟨⟨terms, rest'⟩, hterms, ns', hns, rfl, rfl⟩
    exact ⟨terms, hterms, hns⟩
  · rintro ⟨terms, hterms, hns⟩
    exact ⟨_, hterms, ns, hns, rfl, rfl⟩

theorem field_ascends {u : Unit} {cs rest : List Char} {ns : List Nat}
    (h : field? u cs = some (ns, rest)) :
    ns.Pairwise (· < ·) ∧ ∀ n ∈ ns, u.holds n = true := by
  obtain ⟨terms, -, hns⟩ := field?_eq_some.1 h
  exact fieldOrdinals_ascend hns

theorem years_ascend {cs : List Char} {ns : List Nat} (h : years? cs = some ns) :
    ns.Pairwise (· < ·) ∧ ∀ n ∈ ns, Unit.year.holds n = true := by
  unfold years? at h
  split at h
  · next years rest hfield =>
    split at h
    · exact Option.some.inj h ▸ field_ascends hfield
    · cases h
  · split at h
    · obtain rfl := Option.some.inj h
      exact ⟨List.pairwise_lt_range' 1, fun n => Unit.mem_ordinals.1⟩
    · cases h

/-- The fields of a schedule, read one after the other, with what is left after each. -/
theorem read?_eq_some {s : Schedule} {cs : List Char} (h : Schedule.read? cs = some s) :
    ∃ c₁ c₂ c₃ c₄ c₅ c₆, field? .second cs = some (s.seconds, c₁) ∧
      field? .minute c₁ = some (s.minutes, c₂) ∧ field? .hour c₂ = some (s.hours, c₃) ∧
      field? .day c₃ = some (s.days, c₄) ∧ field? .month c₄ = some (s.months, c₅) ∧
      field? .weekday c₅ = some (s.weekdays, c₆) ∧ years? c₆ = some s.years := by
  simp only [Schedule.read?, bind, Option.bind_eq_some_iff, pure, Option.some.injEq] at h
  obtain ⟨⟨seconds, c₁⟩, h₁, ⟨minutes, c₂⟩, h₂, ⟨hours, c₃⟩, h₃, ⟨days, c₄⟩, h₄, ⟨months, c₅⟩, h₅,
    ⟨weekdays, c₆⟩, h₆, years, h₇, rfl⟩ := h
  exact ⟨c₁, c₂, c₃, c₄, c₅, c₆, h₁, h₂, h₃, h₄, h₅, h₆, h₇⟩

theorem ofExpression_eq_ok {expression : String} {s : Schedule} :
    Schedule.ofExpression expression = .ok s ↔
      ∃ text, normalize expression = .ok text ∧ Schedule.read? text.toList = some s := by
  cases hn : normalize expression with
  | error fault => simp [Schedule.ofExpression, hn, bind, Except.bind]
  | ok text =>
      cases hr : Schedule.read? text.toList with
      | none => simp [Schedule.ofExpression, hn, hr, bind, Except.bind]
      | some s' => simp [Schedule.ofExpression, hn, hr, bind, Except.bind]

/-- **A schedule that is read is proper.** -/
theorem isProper_of_ofExpression {expression : String} {s : Schedule}
    (h : Schedule.ofExpression expression = .ok s) : s.IsProper := by
  obtain ⟨text, -, hread⟩ := ofExpression_eq_ok.1 h
  obtain ⟨c₁, c₂, c₃, c₄, c₅, c₆, h₁, h₂, h₃, h₄, h₅, h₆, h₇⟩ := read?_eq_some hread
  intro u
  cases u with
  | second => exact field_ascends h₁
  | minute => exact field_ascends h₂
  | hour => exact field_ascends h₃
  | day => exact field_ascends h₄
  | month => exact field_ascends h₅
  | weekday => exact field_ascends h₆
  | year => exact years_ascend h₇

/-! ### Fields in their positions -/

/-- The fields of an expression, with that for the second put in front when it is left out. -/
def fieldsOf (expression : String) : List String :=
  let fields := (Text.words expression).map plainField
  if fields.length = 5 then "0" :: fields else fields

/-- Fields with single blanks between them. -/
def joined (fields : List String) : List Char := (" ".intercalate fields).toList

/-- **The fields are read in turn**: reading each unit from the fields that are left takes exactly
the first of them. -/
inductive ReadInTurn (terms : Unit → List Term) : List Unit → List String → Prop where
  | nil : ReadInTurn terms [] []
  | cons {u : Unit} {us : List Unit} {field : String} {fields : List String}
      (head : terms? u.allowsAny (joined (field :: fields)) = some (terms u, joined fields))
      (tail : ReadInTurn terms us fields) : ReadInTurn terms (u :: us) (field :: fields)

theorem ReadInTurn.length_eq {terms : Unit → List Term} {us : List Unit} {fields : List String}
    (h : ReadInTurn terms us fields) : fields.length = us.length := by
  induction h with
  | nil => rfl
  | cons _ _ ih => simp [ih]

/-- The fields that are read in turn, with what is left after each. -/
theorem ReadInTurn.exists_rests {terms : Unit → List Term} {fields : List String}
    (h : ReadInTurn terms positions fields) : ∃ c₁ c₂ c₃ c₄ c₅,
      terms? Unit.second.allowsAny (joined fields) = some (terms .second, c₁) ∧
      terms? Unit.minute.allowsAny c₁ = some (terms .minute, c₂) ∧
      terms? Unit.hour.allowsAny c₂ = some (terms .hour, c₃) ∧
      terms? Unit.day.allowsAny c₃ = some (terms .day, c₄) ∧
      terms? Unit.month.allowsAny c₄ = some (terms .month, c₅) ∧
      terms? Unit.weekday.allowsAny c₅ = some (terms .weekday, []) := by
  cases h with | cons t₁ h => ?_
  cases h with | cons t₂ h => ?_
  cases h with | cons t₃ h => ?_
  cases h with | cons t₄ h => ?_
  cases h with | cons t₅ h => ?_
  cases h with | cons t₆ h => ?_
  cases h
  exact ⟨_, _, _, _, _, t₁, t₂, t₃, t₄, t₅, t₆⟩

theorem normalize_eq_ok {expression text : String} :
    normalize expression = .ok text ↔
      (fieldsOf expression).length = 6 ∧ text = " ".intercalate (fieldsOf expression) := by
  simp only [normalize, fieldsOf]
  generalize (Text.words expression).map plainField = fields
  split
  · next h => simp [h, eq_comm]
  · next h => simp [h, eq_comm]
  · next h₅ h₆ =>
    rw [if_neg h₅]
    exact iff_of_false (by simp) fun h => h₆ h.1

/-- Fields that are read in turn and make sense for their units make up a schedule. -/
theorem exists_schedule_of_readInTurn {expression : String} {terms : Unit → List Term}
    (hread : ReadInTurn terms positions (fieldsOf expression))
    (hsense : ∀ u ∈ positions, ∃ ns, fieldOrdinals? u (terms u) = some ns) :
    ∃ s, Schedule.ofExpression expression = .ok s := by
  have hnormalize := normalize_eq_ok.2 ⟨hread.length_eq, rfl⟩
  have hfield {u : Unit} (hu : u ∈ positions) {cs rest : List Char}
      (h : terms? u.allowsAny cs = some (terms u, rest)) :
      ∃ ns, field? u cs = some (ns, rest) := by
    obtain ⟨ns, hns⟩ := hsense u hu
    exact ⟨ns, field?_eq_some.2 ⟨_, h, hns⟩⟩
  suffices hs : ∃ s, Schedule.read? (joined (fieldsOf expression)) = some s by
    obtain ⟨s, hs⟩ := hs
    exact ⟨s, ofExpression_eq_ok.2 ⟨_, hnormalize, hs⟩⟩
  obtain ⟨c₁, c₂, c₃, c₄, c₅, t₁, t₂, t₃, t₄, t₅, t₆⟩ := hread.exists_rests
  obtain ⟨n₁, h₁⟩ := hfield (by decide) t₁
  obtain ⟨n₂, h₂⟩ := hfield (by decide) t₂
  obtain ⟨n₃, h₃⟩ := hfield (by decide) t₃
  obtain ⟨n₄, h₄⟩ := hfield (by decide) t₄
  obtain ⟨n₅, h₅⟩ := hfield (by decide) t₅
  obtain ⟨n₆, h₆⟩ := hfield (by decide) t₆
  have h₇ : years? [] = some Unit.year.ordinals := rfl
  refine ⟨⟨n₁, n₂, n₃, n₄, n₅, n₆, Unit.year.ordinals⟩, ?_⟩
  simp [Schedule.read?, h₁, h₂, h₃, h₄, h₅, h₆, h₇]

/-- A unit that is read in turn gets what its field denotes. -/
theorem mem_iff_of_terms {terms : Unit → List Term} {u : Unit} {cs rest rest' : List Char}
    {ns : List Nat} (hterms : terms? u.allowsAny cs = some (terms u, rest'))
    (h : field? u cs = some (ns, rest)) :
    rest = rest' ∧ ∀ n, n ∈ ns ↔ Denotes u (terms u) n := by
  obtain ⟨terms', hterms', hns⟩ := field?_eq_some.1 h
  rw [hterms] at hterms'
  obtain ⟨rfl, rfl⟩ : terms u = terms' ∧ rest' = rest := by simpa using hterms'
  exact ⟨rfl, fun n => mem_fieldOrdinals hns⟩

/-- **A schedule whose fields are read in turn allows what they denote**, in every year. -/
theorem schedule_of_readInTurn {expression : String} {s : Schedule} {terms : Unit → List Term}
    (hs : Schedule.ofExpression expression = .ok s)
    (hread : ReadInTurn terms positions (fieldsOf expression)) :
    (∀ u ∈ positions, ∀ n, n ∈ s.ordinals u ↔ Denotes u (terms u) n) ∧
      s.years = Unit.year.ordinals := by
  obtain ⟨text, htext, hs⟩ := ofExpression_eq_ok.1 hs
  obtain ⟨-, rfl⟩ := normalize_eq_ok.1 htext
  obtain ⟨c₁, c₂, c₃, c₄, c₅, c₆, h₁, h₂, h₃, h₄, h₅, h₆, h₇⟩ := read?_eq_some hs
  obtain ⟨r₁, r₂, r₃, r₄, r₅, t₁, t₂, t₃, t₄, t₅, t₆⟩ := hread.exists_rests
  obtain ⟨rfl, m₁⟩ := mem_iff_of_terms t₁ h₁
  obtain ⟨rfl, m₂⟩ := mem_iff_of_terms t₂ h₂
  obtain ⟨rfl, m₃⟩ := mem_iff_of_terms t₃ h₃
  obtain ⟨rfl, m₄⟩ := mem_iff_of_terms t₄ h₄
  obtain ⟨rfl, m₅⟩ := mem_iff_of_terms t₅ h₅
  obtain ⟨rfl, m₆⟩ := mem_iff_of_terms t₆ h₆
  refine ⟨fun u hu => ?_, ?_⟩
  · cases u with
    | second => exact m₁
    | minute => exact m₂
    | hour => exact m₃
    | day => exact m₄
    | month => exact m₅
    | weekday => exact m₆
    | year => simp [positions] at hu
  · -- nothing is left for the years
    exact (Option.some.inj h₇).symm

end NodeSidecar.Cron
