/-
**One token, one unit.**

An expression is cut into tokens twice.  First it is cut at blanks, and there have to be five or six
tokens; then the readers of fields find the end of each field in the joined text themselves.  Only
when both come to the same tokens does each of them constrain the unit of its position, and nothing
constrains the year.

The two agree exactly when each token is a written field of its unit.  That the expression is
accepted is not enough: a token that is not a field can be read as two, so that the last one ends
up as a list of years, and the timer stops firing after them.

Main definition: `CronTimer.FollowsTokens` — each token constrains the unit of its position, and
nothing else is constrained.

Main results:

* `Cron.writtenAs_iff` — tokens that are fields, decided by reading each on its own;
* `Cron.WrittenAs.followsTokens` — a timer follows tokens that are fields;
* `CronTimer.FollowsTokens.nextAfter_eq` — what the tokens denote determines the fires;
* `Timer.tokens_constrain_their_units` — **one token, one unit, when each token is a field**.
-/

import NodeSidecar.Proofs.Cron.Plain
import NodeSidecar.Proofs.Timer.EarliestMatch
import Mathlib.Data.List.Sort

set_option autoImplicit false

namespace NodeSidecar

/-! ### Tokens -/

namespace Text

theorem isBlank_of_mem_wordsFrom {piece cs w : List Char} (hw : w ∈ wordsFrom piece cs)
    (hpiece : ∀ c ∈ piece, isBlank c = false) : ∀ c ∈ w, isBlank c = false := by
  induction cs generalizing piece with
  | nil =>
      unfold wordsFrom at hw
      split at hw
      · cases hw
      · obtain rfl := List.mem_singleton.1 hw
        simpa using hpiece
  | cons d cs ih =>
      unfold wordsFrom at hw
      split at hw
      · split at hw
        · exact ih hw (by simp)
        · rcases List.mem_cons.1 hw with rfl | hw
          · simpa using hpiece
          · exact ih hw (by simp)
      · next hd =>
        refine ih hw fun c hc => ?_
        rcases List.mem_cons.1 hc with rfl | hc
        · exact Bool.eq_false_iff.2 hd
        · exact hpiece c hc

/-- **A word has no blanks.** -/
theorem isBlank_of_mem_words {s w : String} (hw : w ∈ words s) :
    ∀ c ∈ w.toList, isBlank c = false := by
  obtain ⟨cs, hcs, rfl⟩ := List.mem_map.1 hw
  rw [String.toList_ofList]
  exact isBlank_of_mem_wordsFrom hcs (by simp)

end Text

namespace Cron

theorem isSpace_of_isBlank {c : Char} (h : Text.isBlank c = false) : isSpace c = false :=
  isSpace_eq_false_of_ne (ne_of_property (by decide) h).symm (ne_of_property (by decide) h).symm

/-- The fields of an expression have no blanks. -/
theorem isSpace_of_mem_fieldsOf {expression field : String} (h : field ∈ fieldsOf expression) :
    ∀ c ∈ field.toList, isSpace c = false := by
  have hword {f : String} (hf : f ∈ (Text.words expression).map plainField) :
      ∀ c ∈ f.toList, isSpace c = false := by
    obtain ⟨w, hw, rfl⟩ := List.mem_map.1 hf
    unfold plainField
    split
    · exact List.forall_mem_singleton.2 rfl
    · exact fun c hc => isSpace_of_isBlank (Text.isBlank_of_mem_words hw c hc)
  simp only [fieldsOf] at h
  split at h
  · rcases List.mem_cons.1 h with rfl | h
    · exact List.forall_mem_singleton.2 rfl
    · exact hword h
  · exact hword h

variable {expression : String} {terms : Unit → List Term}

/-- The fields of an expression are read in turn when each is a written field, and only then. -/
theorem readInTurn_fieldsOf_iff : ReadInTurn terms positions (fieldsOf expression) ↔
    WrittenAs terms positions (fieldsOf expression) :=
  readInTurn_iff fun _ => isSpace_of_mem_fieldsOf

/-- **Tokens that are fields**, decided by reading each on its own. -/
theorem writtenAs_iff : WrittenAs terms positions (fieldsOf expression) ↔
    List.Forall₂ (fun u field => terms? u.allowsAny field.toList = some (terms u, []))
      positions (fieldsOf expression) := by
  have hread {u : Unit} {field : String} (h : field ∈ fieldsOf expression) :
      terms? u.allowsAny field.toList = some (terms u, []) ↔
        Written u.allowsAny (terms u) field.toList :=
    terms?_eq_some_iff (isSpace_of_mem_fieldsOf h)
  simp only [WrittenAs, List.forall₂_iff_zip]
  refine and_congr_right fun _ => forall₃_congr fun u field h => ?_
  exact (hread (List.of_mem_zip h).2).symm

/-- The second that is put in front of five tokens. -/
theorem WrittenAs.denotes_second (h : WrittenAs terms positions (fieldsOf expression))
    (hfive : (Text.words expression).length = 5) (n : Nat) :
    Denotes .second (terms .second) n ↔ n = 0 := by
  have hfields : fieldsOf expression = "0" :: (Text.words expression).map plainField := by
    simp [fieldsOf, hfive]
  rw [hfields] at h
  obtain ⟨hsecond, -⟩ := List.forall₂_cons.1 h
  have hspace : ∀ c ∈ "0".toList, isSpace c = false := List.forall_mem_singleton.2 rfl
  have hread := (terms?_eq_some_iff hspace).2 hsecond
  have hzero : terms? Unit.second.allowsAny "0".toList = some ([(Plain.point 0).term], []) := by
    decide
  rw [hzero] at hread
  obtain ⟨hterms, -⟩ := Prod.mk.inj (Option.some.inj hread)
  rw [← hterms, denotes_plain, Plain.Has]

/-- A proper schedule is made up of its sets of ordinals. -/
theorem Schedule.ext_of_mem {s s' : Schedule} (hs : s.IsProper) (hs' : s'.IsProper)
    (h : ∀ u n, n ∈ s.ordinals u ↔ n ∈ s'.ordinals u) : s = s' := by
  have hlists (u : Unit) : s.ordinals u = s'.ordinals u :=
    (hs u).1.eq_of_mem_iff (hs' u).1 (h u)
  cases s
  cases s'
  exact (Schedule.mk.injEq ..).mpr ⟨hlists .second, hlists .minute, hlists .hour, hlists .day,
    hlists .month, hlists .weekday, hlists .year⟩

end Cron

/-! ### Following the tokens -/

open Cron (Term Denotes WrittenAs ReadInTurn positions fieldsOf)

/-- **A calendar timer follows its tokens**: each unit allows what the token at its position
denotes, the second that is left out is zero, and no year is left out. -/
structure CronTimer.FollowsTokens (c : CronTimer) (terms : Cron.Unit → List Term) : Prop where
  units : ∀ u ∈ positions, ∀ n, n ∈ c.schedule.ordinals u ↔ Denotes u (terms u) n
  second : (Text.words c.expression).length = 5 → c.schedule.seconds = [0]
  years : c.schedule.years = Cron.Unit.year.ordinals

variable {expression : String} {terms : Cron.Unit → List Term} {z : Zone}

/-- **A timer follows tokens that are fields.** -/
theorem Cron.WrittenAs.followsTokens {s : Cron.Schedule}
    (hs : Cron.Schedule.ofExpression expression = .ok s)
    (h : WrittenAs terms positions (fieldsOf expression)) :
    CronTimer.FollowsTokens ⟨expression, z, s⟩ terms := by
  obtain ⟨hunits, hyears⟩ := Cron.schedule_of_readInTurn hs h.readInTurn
  refine ⟨hunits, fun hfive => ?_, hyears⟩
  have hsecond (n : Nat) : n ∈ s.seconds ↔ n ∈ [0] := by
    rw [List.mem_singleton]
    exact (hunits .second (by decide) n).trans (h.denotes_second hfive n)
  exact (Cron.isProper_of_ofExpression hs .second).1.eq_of_mem_iff (List.pairwise_singleton _ _)
    hsecond

/-- **What the tokens denote determines the fires.** -/
theorem CronTimer.FollowsTokens.nextAfter_eq {c c' : CronTimer}
    {terms' : Cron.Unit → List Term}
    (h : c.FollowsTokens terms) (h' : c'.FollowsTokens terms') (hs : c.schedule.IsProper)
    (hs' : c'.schedule.IsProper) (hzone : c.zone = c'.zone)
    (hterms : ∀ u ∈ positions, ∀ n, Denotes u (terms u) n ↔ Denotes u (terms' u) n) :
    (Timer.cron c).nextAfter = (Timer.cron c').nextAfter := by
  have hschedule : c.schedule = c'.schedule := by
    refine Cron.Schedule.ext_of_mem hs hs' fun u n => ?_
    by_cases hu : u ∈ positions
    · rw [h.units u hu, h'.units u hu, hterms u hu]
    · obtain rfl : u = .year := by
        cases u <;> first | rfl | exact absurd (by decide) hu
      show n ∈ c.schedule.years ↔ n ∈ c'.schedule.years
      rw [h.years, h'.years]
  funext i
  simp only [Timer.nextAfter, hschedule, hzone]

namespace Timer

/-- **One token, one unit, when each token is a field.**  An expression that is accepted has five
or six tokens.  The reading of each unit takes exactly the token of its position if and only if each
token is a written field.  Then the timer follows its tokens, and it fires like every other timer of
the zone whose tokens denote the same. -/
theorem tokens_constrain_their_units {t : Timer} (ht : ofExpression expression z = .ok t) :
    ((Text.words expression).length = 5 ∨ (Text.words expression).length = 6) ∧
    ∃ c : CronTimer, t = .cron c ∧ c.expression = expression ∧ c.zone = z ∧
      ∀ terms, (ReadInTurn terms positions (fieldsOf expression) ↔
          WrittenAs terms positions (fieldsOf expression)) ∧
        (WrittenAs terms positions (fieldsOf expression) → c.FollowsTokens terms ∧
          ∀ expression' t' terms', ofExpression expression' z = .ok t' →
            WrittenAs terms' positions (fieldsOf expression') →
            (∀ u ∈ positions, ∀ n, Denotes u (terms u) n ↔ Denotes u (terms' u) n) →
            t.nextAfter = t'.nextAfter) := by
  obtain ⟨s, hs, rfl⟩ := exists_schedule_of_ofExpression ht
  obtain ⟨text, htext, -⟩ := Cron.ofExpression_eq_ok.1 hs
  obtain ⟨hlength, -⟩ := Cron.normalize_eq_ok.1 htext
  refine ⟨?_, ⟨expression, z, s⟩, rfl, rfl, rfl, fun terms =>
    ⟨Cron.readInTurn_fieldsOf_iff, fun hwritten => ⟨hwritten.followsTokens hs, ?_⟩⟩⟩
  · simp only [fieldsOf] at hlength
    split at hlength
    · next h => exact .inl (by simpa using h)
    · exact .inr (by simpa using hlength)
  · intro expression' t' terms' ht' hwritten' hterms
    obtain ⟨s', hs', rfl⟩ := exists_schedule_of_ofExpression ht'
    exact CronTimer.FollowsTokens.nextAfter_eq (hwritten.followsTokens hs)
      (hwritten'.followsTokens hs') (Cron.isProper_of_ofExpression hs)
      (Cron.isProper_of_ofExpression hs') rfl hterms

/-- A timer for every quarter of an office hour follows its five tokens. -/
theorem tokens_constrain_their_units_of_office_hours :
    let terms : Cron.Unit → List Term
      | .second => [.span (.point 0)]
      | .minute => [.every (.point 0) 15]
      | .hour => [.span (.range 9 17)]
      | .weekday => [.span (.named ['M', 'O', 'N'] ['F', 'R', 'I'])]
      | _ => [.span .all]
    let c : CronTimer := ⟨"0/15 9-17 ? * MON-FRI", Zone.utc, ⟨[0], [0, 15, 30, 45],
      [9, 10, 11, 12, 13, 14, 15, 16, 17], Cron.Unit.day.ordinals, Cron.Unit.month.ordinals,
      [2, 3, 4, 5, 6], Cron.Unit.year.ordinals⟩⟩
    ofCron c.expression = .ok (.cron c) ∧
      WrittenAs terms positions (fieldsOf c.expression) ∧ c.FollowsTokens terms := by
  intro terms c
  have hschedule : Cron.Schedule.ofExpression c.expression = .ok c.schedule := by decide +kernel
  have ht : ofCron c.expression = .ok (.cron c) := by rw [ofCron, ofExpression, hschedule]
  have hfields : fieldsOf c.expression = ["0", "0/15", "9-17", "*", "*", "MON-FRI"] := by
    decide +kernel
  have hwritten : WrittenAs terms positions (fieldsOf c.expression) := by
    rw [Cron.writtenAs_iff, hfields]
    exact .cons (by decide) <| .cons (by decide) <| .cons (by decide) <| .cons (by decide) <|
      .cons (by decide) <| .cons (by decide) .nil
  obtain ⟨-, c', hc', -, -, hfollows⟩ := tokens_constrain_their_units ht
  obtain rfl := Timer.cron.inj hc'
  exact ⟨ht, hwritten, ((hfollows terms).2 hwritten).1⟩

/-- **A token constrains the year**: the last one of these six is read as all weekdays and as a
year, and from the end of that year on the timer does not fire. -/
theorem token_constrains_year :
    let c : CronTimer := ⟨"0 0 0 1 1 *2025", Zone.utc, ⟨[0], [0], [0], [1], [1],
      Cron.Unit.weekday.ordinals, [2025]⟩⟩
    let newYear : Instant := ⟨1767225600 * 1000000000, by decide, by decide⟩
    ofCron c.expression = .ok (.cron c) ∧ (Text.words c.expression).length = 6 ∧
      (∀ terms, ¬ c.FollowsTokens terms) ∧ (Timer.cron c).nextAfter newYear = .ok none := by
  intro c newYear
  have hschedule : Cron.Schedule.ofExpression c.expression = .ok c.schedule := by decide +kernel
  have ht : ofCron c.expression = .ok (.cron c) := by rw [ofCron, ofExpression, hschedule]
  have hyears : c.schedule.years ≠ Cron.Unit.year.ordinals := by decide
  exact ⟨ht, by decide +kernel, fun _ h => hyears h.years, by decide +kernel⟩

end Timer

end NodeSidecar
