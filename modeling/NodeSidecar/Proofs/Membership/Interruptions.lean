/-
**Changes that are interrupted.**

A change of permissions is not atomic.  It asks for the whole first and, when that is refused
because part of it is settled already, for each of its address ranges; any of these requests may
fail, and a failure that is not a refusal of this kind ends the change where it is.  What is made of
the permissions by then are the address ranges asked for before, except for those whose requests
were answered by a failure themselves.  To repeat the change until it is not interrupted comes to
the same as never having been interrupted.

Main definitions:

* `AclChange.Makes` — a list of permissions after a change of its slot by some address ranges;
* `AclChange.Reply` — what comes of one request of a change, failures included;
* `Retried` — the requests of a change for one address range after the other, with their answers;
* `AclChange.requests`, `AclChange.Conducted` — the requests that a change makes at most, and how it
  goes through them.

Main results:

* `AclChange.reply` — **one request**;
* `AclChange.changeEach_retried`, `AclChange.plan_conducted` — the requests one by one, and all;
* `AclChange.run_evolves` — whatever fails, a change makes nothing but part of itself;
* `interrupted_changes_are_partial` — **what an interrupted change has made, and what becomes of it
  when it is repeated**.
-/

import NodeSidecar.Proofs.Cloud.Failures
import NodeSidecar.Proofs.Membership.Batches

set_option autoImplicit false

namespace NodeSidecar

/-! ### One request -/

namespace AclChange

variable {s : MembershipSettings} {a : AclChange} {ps ps' ps'' : List IngressRule}
  {cidrs cidrs' : CidrSet}

/-- **A list of permissions after a change of its slot** by some address ranges: their set is
changed, and the rules of the other slots are where they were. -/
structure Makes (a : AclChange) (cidrs : CidrSet) (ps ps' : List IngressRule) : Prop where
  changed : Changed a.change a.slot cidrs ps ps'
  others : ∀ keep : Slot → Bool, keep a.slot = false →
    ps'.filter (fun p => keep p.slot) = ps.filter fun p => keep p.slot

/-- Nothing is made by leaving alone what is settled. -/
theorem Makes.of_settled (hd : DistinctSlots ps) (h : ∀ x ∈ cidrs, a.SettledIn ps x) :
    a.Makes cidrs ps ps :=
  ⟨.of_settled hd h, fun _ _ => rfl⟩

theorem Makes.trans (h : a.Makes cidrs ps ps') (h' : a.Makes cidrs' ps' ps'') :
    a.Makes (cidrs.union cidrs') ps ps'' :=
  ⟨h.changed.trans h'.changed,
    fun keep hkeep => (h'.others keep hkeep).trans (h.others keep hkeep)⟩

/-- The request of the change for some address ranges. -/
def request (s : MembershipSettings) (a : AclChange) (cidrs : CidrSet) : Request :=
  .changeIngress a.change s.aclGroupName (.tcp cidrs a.fromPort a.toPort)

/-- What a plan is told: that its request is settled, or how it failed. -/
def told : Option CloudError → Except CloudError Unit
  | none => .ok ()
  | some e => .error e

/-- **What comes of one request**: it fails if that was asked for, it is settled, or it is refused
because one of its address ranges is settled already. -/
inductive Reply (a : AclChange) (failure : Option CloudError) (cidrs : CidrSet)
    (ps : List IngressRule) : Option CloudError → List IngressRule → Prop
  | failed (e : CloudError) : failure = some e → Reply a failure cidrs ps (some e) ps
  | settled (ps' : List IngressRule) : failure = none → a.Makes cidrs ps ps' →
      Reply a failure cidrs ps none ps'
  | refused (text : String) (x : String) : failure = none → x ∈ cidrs → a.SettledIn ps x →
      Reply a failure cidrs ps (some (a.change.refusal text)) ps

variable {c : Cloud} {w : Surroundings s.aclGroupName}

/-- **One request of a change** to a provider that may be told to fail. -/
theorem reply (h : c.store = w.store ps) (hd : DistinctSlots ps) (a : AclChange) (cidrs : CidrSet)
    (hne : cidrs.isEmpty = false) :
    ∃ answer c' ps', c.changeIngress a.change s.aclGroupName (.tcp cidrs a.fromPort a.toPort) =
        (told answer, c') ∧ c.Proceeds c' (a.request s cidrs) answer ∧ c'.store = w.store ps' ∧
      a.Reply (c.faults.failure 0) cidrs ps answer ps' := by
  rw [Cloud.changeIngress_eq]
  let act : Store → Except CloudError (Unit × Store) := fun store =>
    (a.change.request s.aclGroupName (.tcp cidrs a.fromPort a.toPort) store).map fun s => ((), s)
  have hstore : a.change.request s.aclGroupName (.tcp cidrs a.fromPort a.toPort) c.store =
      (a.change.applyTo (.tcp cidrs a.fromPort a.toPort) ps).map w.store := by
    rw [h, w.request_store]
  cases hfailure : c.faults.failure 0 with
  | some e =>
      obtain ⟨c', heq, hp, hc'⟩ := Cloud.attempt_of_failure (a.request s cidrs) act hfailure
      exact ⟨some e, c', ps, heq, hp, hc'.trans h, .failed e rfl⟩
  | none =>
      rcases a.change.applyTo_cases (r := .tcp cidrs a.fromPort a.toPort) hd hne with
        ⟨_, ps', ha, hch⟩ | ⟨⟨x, hx, hset⟩, text, ha⟩
      · obtain ⟨c', heq, hp, hc'⟩ := Cloud.attempt_of_settled (a.request s cidrs) act
          (a := ()) (s := w.store ps') hfailure (by simp only [act, hstore, ha]; rfl)
        refine ⟨none, c', ps', heq, hp, hc', .settled ps' rfl ⟨hch, fun keep hkeep => ?_⟩⟩
        exact IngressChange.applyTo_filter ha hkeep
      · obtain ⟨c', heq, hp, hc'⟩ := Cloud.attempt_of_refused (a.request s cidrs) act
          hfailure (by simp only [act, hstore, ha]; rfl)
        exact ⟨some _, c', ps, heq, hp, hc'.trans h, .refused text x rfl hx hset⟩

/-- A request that was to fail has failed so. -/
theorem Reply.of_failure {answer : Option CloudError} {e : CloudError}
    (h : a.Reply (some e) cidrs ps answer ps') : answer = some e ∧ ps' = ps := by
  cases h with
  | failed e' he => exact ⟨he.symm, rfl⟩
  | settled _ hnone => cases hnone
  | refused _ _ hnone => cases hnone

/-- A request for one address range that was not to fail has made it, also if it was refused. -/
theorem Reply.makes_one {failure answer : Option CloudError} {x : String}
    (h : a.Reply failure (.singleton x) ps answer ps') (hd : DistinctSlots ps)
    (hfailure : failure = none) :
    a.Makes (.singleton x) ps ps' ∧
      ∀ e, answer = some e → Membership.alreadySettled a.change e = true := by
  cases h with
  | failed e he =>
      rw [hfailure] at he
      cases he
  | settled ps' _ hmakes => exact ⟨hmakes, fun e he => by cases he⟩
  | refused text y _ hy hset =>
      refine ⟨.of_settled hd fun z hz => ?_, fun e he => ?_⟩
      · rw [CidrSet.mem_singleton] at hy hz
        rwa [hz, ← hy]
      · rw [← Option.some.inj he, Membership.alreadySettled_refusal]

end AclChange

/-! ### The requests for one address range after the other -/

/-- A request that fails as it is asked to is answered by that failure. -/
theorem answered_by_failure {change : IngressChange} {failure : Option CloudError} {e : CloudError}
    (h : failure = some e) : (∀ e', failure = some e' → some e = some e') ∧
      (failure = none → ∀ e', some e = some e' → Membership.alreadySettled change e' = true) := by
  subst h
  exact ⟨fun _ he' => he', fun hnone => by cases hnone⟩

/-- **The requests of a change for one address range after the other**, with the failures asked for,
the answers, the result, and the address ranges that are made: one that is to fail in another way
than by saying that it is settled is the last. -/
inductive Retried (change : IngressChange) : (Nat → Option CloudError) → List String →
    List (Option CloudError) → Except MembershipError Unit → List String → Prop
  | finished (failures : Nat → Option CloudError) : Retried change failures [] [] (.ok ()) []
  | stopped {failures : Nat → Option CloudError} {e : CloudError} (x : String)
      (rest : List String) : failures 0 = some e → Membership.alreadySettled change e = false →
      Retried change failures (x :: rest) [some e] (.error (.cloud e)) []
  | passedOver {failures : Nat → Option CloudError} {e : CloudError} {rest made : List String}
      {answers : List (Option CloudError)} {result : Except MembershipError Unit} (x : String) :
      failures 0 = some e → Membership.alreadySettled change e = true →
      Retried change (fun k => failures (k + 1)) rest answers result made →
      Retried change failures (x :: rest) (some e :: answers) result made
  | made {failures : Nat → Option CloudError} {answer : Option CloudError}
      {rest made : List String} {answers : List (Option CloudError)}
      {result : Except MembershipError Unit} (x : String) : failures 0 = none →
      (∀ e, answer = some e → Membership.alreadySettled change e = true) →
      Retried change (fun k => failures (k + 1)) rest answers result made →
      Retried change failures (x :: rest) (answer :: answers) result (x :: made)

namespace Retried

variable {change : IngressChange} {failures : Nat → Option CloudError} {cidrs made : List String}
  {answers : List (Option CloudError)} {result : Except MembershipError Unit}

theorem length_le (h : Retried change failures cidrs answers result made) :
    answers.length ≤ cidrs.length := by
  induction h with
  | finished => simp
  | stopped => simp
  | passedOver x _ _ _ ih => simpa using ih
  | made x _ _ _ ih => simpa using ih

/-- The first request is made if there is one. -/
theorem length_pos (h : Retried change failures cidrs answers result made) (hne : cidrs ≠ []) :
    0 < answers.length := by
  cases h with
  | finished => exact absurd rfl hne
  | stopped => simp
  | passedOver => simp
  | made => simp

/-- A failure that is asked for of a request is its answer, and any other failure says that it is
settled. -/
theorem answer (h : Retried change failures cidrs answers result made) {k : Nat}
    {answer : Option CloudError} (hk : answers[k]? = some answer) :
    (∀ e, failures k = some e → answer = some e) ∧
      (failures k = none → ∀ e, answer = some e → Membership.alreadySettled change e = true) := by
  induction h generalizing k with
  | finished => simp at hk
  | @stopped failures e x rest hfail _ =>
      cases k with
      | zero =>
          obtain rfl : some e = answer := by simpa using hk
          exact answered_by_failure hfail
      | succ k => simp at hk
  | @passedOver failures e rest made answers result x hfail hset _ ih =>
      cases k with
      | zero =>
          obtain rfl : some e = answer := by simpa using hk
          exact answered_by_failure hfail
      | succ k => exact ih (by simpa using hk)
  | @made failures answer' rest made answers result x hfail hset _ ih =>
      cases k with
      | zero =>
          obtain rfl : answer' = answer := by simpa using hk
          refine ⟨fun e' he' => ?_, fun _ => hset⟩
          rw [hfail] at he'
          cases he'
      | succ k => exact ih (by simpa using hk)

/-- Only the last answer may be another failure than that a request is settled. -/
theorem settled_of_lt (h : Retried change failures cidrs answers result made) {k : Nat}
    {e : CloudError} (hlt : k + 1 < answers.length) (hk : answers[k]? = some (some e)) :
    Membership.alreadySettled change e = true := by
  induction h generalizing k with
  | finished => simp at hk
  | stopped => simp at hlt
  | @passedOver failures e rest made answers result x hfail hset _ ih =>
      cases k with
      | zero =>
          obtain rfl := Option.some.inj (Option.some.inj hk)
          exact hset
      | succ k => exact ih (by simpa using hlt) (by simpa using hk)
  | @made failures answer' rest made answers result x hfail hset _ ih =>
      cases k with
      | zero => exact hset e (by simpa using hk)
      | succ k => exact ih (by simpa using hlt) (by simpa using hk)

/-- **The result**: all requests were made, or it is the last answer. -/
theorem result_cases (h : Retried change failures cidrs answers result made) :
    (result = .ok () ∧ answers.length = cidrs.length ∧
      ∀ e, some e ∈ answers → Membership.alreadySettled change e = true) ∨
    ∃ e, result = .error (.cloud e) ∧ answers.getLast? = some (some e) ∧
      Membership.alreadySettled change e = false := by
  induction h with
  | finished => exact Or.inl ⟨rfl, rfl, by simp⟩
  | @stopped failures e x rest hfail hset => exact Or.inr ⟨e, rfl, rfl, hset⟩
  | @passedOver failures e rest made answers result x hfail hset _ ih =>
      rcases ih with ⟨hok, hlength, hall⟩ | ⟨e', herr, hlast, hnot⟩
      · refine Or.inl ⟨hok, by simpa using hlength, fun e' he' => ?_⟩
        rcases List.mem_cons.1 he' with heq | he'
        · rwa [Option.some.inj heq]
        · exact hall e' he'
      · exact Or.inr ⟨e', herr, by rw [List.getLast?_cons, hlast]; rfl, hnot⟩
  | @made failures answer' rest made answers result x hfail hset _ ih =>
      rcases ih with ⟨hok, hlength, hall⟩ | ⟨e', herr, hlast, hnot⟩
      · refine Or.inl ⟨hok, by simpa using hlength, fun e' he' => ?_⟩
        rcases List.mem_cons.1 he' with heq | he'
        · exact hset e' heq.symm
        · exact hall e' he'
      · exact Or.inr ⟨e', herr, by rw [List.getLast?_cons, hlast]; rfl, hnot⟩

/-- **What is made** are the address ranges whose requests were made and were not to fail. -/
theorem mem_made (h : Retried change failures cidrs answers result made) {x : String} :
    x ∈ made ↔ ∃ k < answers.length, cidrs[k]? = some x ∧ failures k = none := by
  induction h with
  | finished => simp
  | @stopped failures e y rest hfail _ =>
      refine iff_of_false List.not_mem_nil ?_
      rintro ⟨k, hk, _, hnone⟩
      obtain rfl : k = 0 := by simpa using hk
      rw [hfail] at hnone
      cases hnone
  | @passedOver failures e rest made answers result y hfail hset _ ih =>
      rw [ih]
      constructor
      · rintro ⟨k, hk, hx, hnone⟩
        exact ⟨k + 1, by simpa using hk, by simpa using hx, hnone⟩
      · rintro ⟨k, hk, hx, hnone⟩
        cases k with
        | zero =>
            rw [hfail] at hnone
            cases hnone
        | succ k => exact ⟨k, by simpa using hk, by simpa using hx, hnone⟩
  | @made failures answer' rest made answers result y hfail hset _ ih =>
      rw [List.mem_cons, ih]
      constructor
      · rintro (rfl | ⟨k, hk, hx, hnone⟩)
        · exact ⟨0, by simp, rfl, hfail⟩
        · exact ⟨k + 1, by simpa using hk, by simpa using hx, hnone⟩
      · rintro ⟨k, hk, hx, hnone⟩
        cases k with
        | zero => exact Or.inl (by simpa using hx.symm)
        | succ k => exact Or.inr ⟨k, by simpa using hk, by simpa using hx, hnone⟩

end Retried

/-! ### All requests -/

namespace AclChange

/-- **The requests that a change makes at most**, in order: one for the whole, and one for each
address range. -/
def requests (s : MembershipSettings) (a : AclChange) : List Request :=
  a.request s a.ranges :: a.ranges.elements.map fun x => a.request s (.singleton x)

/-- The request for the whole is the first one. -/
theorem zip_requests_one (s : MembershipSettings) (a : AclChange) (answer : Option CloudError) :
    (a.requests s).zip [answer] = [(a.request s a.ranges, answer)] := by
  rw [requests, List.zip_cons_cons, List.zip_nil_right]

/-- **How a change goes through its requests**, by the answers to those that it makes. -/
structure Conducted (a : AclChange) (failures : Nat → Option CloudError)
    (answers : List (Option CloudError)) (result : Except MembershipError Unit) : Prop where
  /-- A failure that is asked for of a request is its answer, and any other failure says that it is
  settled. -/
  answered : ∀ k answer, answers[k]? = some answer →
    (∀ e, failures k = some e → answer = some e) ∧
      (failures k = none → ∀ e, answer = some e → Membership.alreadySettled a.change e = true)
  /-- The whole is asked for. -/
  whole : 0 < answers.length
  /-- It is asked for each address range exactly if there is more than one and the answer for the
  whole says that it is settled. -/
  retried : 1 < answers.length ↔ 1 < a.ranges.elements.length ∧
    ∃ e, answers[0]? = some (some e) ∧ Membership.alreadySettled a.change e = true
  /-- No request is made twice. -/
  bounded : answers.length ≤ a.ranges.elements.length + 1
  /-- No request follows on another failure than one that says that it is settled. -/
  goesOn : ∀ k e, k + 1 < answers.length → answers[k]? = some (some e) →
    Membership.alreadySettled a.change e = true
  /-- The change succeeds when it has made all its requests without such a failure; otherwise that
  failure is its result. -/
  result : (result = .ok () ∧
      (∀ e, some e ∈ answers → Membership.alreadySettled a.change e = true) ∧
      (1 < answers.length → answers.length = a.ranges.elements.length + 1)) ∨
    ∃ e, result = .error (.cloud e) ∧ answers.getLast? = some (some e) ∧
      Membership.alreadySettled a.change e = false

variable {s : MembershipSettings} {c : Cloud} {w : Surroundings s.aclGroupName}
  {ps ps' : List IngressRule} {a : AclChange}

/-- **The requests for one address range after the other.** -/
theorem changeEach_retried (h : c.store = w.store ps) (hd : DistinctSlots ps) (a : AclChange)
    (cidrs : List String) :
    ∃ answers result made c' ps',
      (Membership.changeEach a.change s.aclGroupName a.fromPort a.toPort cidrs).run c =
        (result, c') ∧
      Retried a.change c.faults.failure cidrs answers result made ∧
      c'.requests = c.requests ++
        (cidrs.map fun x => a.request s (.singleton x)).zip answers ∧
      c'.store = w.store ps' ∧ a.Makes (.ofList made) ps ps' := by
  have hnothing : ∀ {ps}, DistinctSlots ps → a.Makes (.ofList []) ps ps := fun hd =>
    .of_settled hd fun x hx => absurd hx (CidrSet.not_mem_empty x)
  induction cidrs generalizing c ps with
  | nil => exact ⟨[], _, [], c, ps, rfl, .finished _, by simp, h, hnothing hd⟩
  | cons x cidrs ih =>
      obtain ⟨answer, c₁, ps₁, heq, hp, hstore, hreply⟩ :=
        reply h hd a (.singleton x) rfl
      rw [Membership.changeEach, Plan.run, heq]
      cases hfailure : c.faults.failure 0 with
      | some e =>
          rw [hfailure] at hreply
          obtain ⟨rfl, rfl⟩ := hreply.of_failure
          cases hset : Membership.alreadySettled a.change e with
          | false =>
              refine ⟨[some e], .error (.cloud e), [], c₁, ps₁, ?_, .stopped x cidrs hfailure hset,
                by simpa using hp.requests, hstore, hnothing hd⟩
              simp [told, hset, Plan.run]
          | true =>
              obtain ⟨answers, result, made, c₂, ps₂, hrun, hretried, hrequests, hstore₂, hmakes⟩ :=
                ih hstore hd
              rw [hp.failures_eq] at hretried
              refine ⟨some e :: answers, result, made, c₂, ps₂, ?_,
                .passedOver x hfailure hset hretried, ?_, hstore₂, hmakes⟩
              · simpa [told, hset] using hrun
              · rw [hrequests, hp.requests]
                simp
      | none =>
          obtain ⟨hmake, hset⟩ := hreply.makes_one hd hfailure
          obtain ⟨answers, result, made, c₂, ps₂, hrun, hretried, hrequests, hstore₂, hmakes⟩ :=
            ih hstore hmake.changed.distinct
          rw [hp.failures_eq] at hretried
          have hunion : CidrSet.ofList (x :: made) =
              (CidrSet.singleton x).union (.ofList made) := CidrSet.ext fun y => by simp
          refine ⟨answer :: answers, result, x :: made, c₂, ps₂, ?_,
            .made x hfailure hset hretried, ?_, hstore₂, hunion ▸ hmake.trans hmakes⟩
          · cases answer with
            | none => exact hrun
            | some e => simpa [told, hset e rfl] using hrun
          · rw [hrequests, hp.requests]
            simp

/-- A change that makes one request and succeeds. -/
theorem Conducted.of_one {failures : Nat → Option CloudError} {answer : Option CloudError}
    (hfailed : ∀ e, failures 0 = some e → answer = some e)
    (hsettled : ∀ e, answer = some e → Membership.alreadySettled a.change e = true ∧
      a.ranges.elements.length ≤ 1) : a.Conducted failures [answer] (.ok ()) where
  answered k answer' hk := by
    obtain ⟨rfl, rfl⟩ : k = 0 ∧ answer = answer' := by
      cases k with
      | zero => simpa using hk
      | succ k => simp at hk
    exact ⟨hfailed, fun _ e he => (hsettled e he).1⟩
  whole := by simp
  retried := by
    refine iff_of_false (by simp) ?_
    rintro ⟨hlen, e, he, _⟩
    have hle := (hsettled e (by simpa using he)).2
    omega
  bounded := by simp
  goesOn k e hlt := by simp at hlt
  result := Or.inl ⟨rfl, fun e he => (hsettled e (List.mem_singleton.1 he).symm).1, by simp⟩

/-- A change that fails with its first request. -/
theorem Conducted.of_stopped {failures : Nat → Option CloudError} {e : CloudError}
    (hfailed : failures 0 = some e) (hset : Membership.alreadySettled a.change e = false) :
    a.Conducted failures [some e] (.error (.cloud e)) where
  answered k answer hk := by
    obtain ⟨rfl, rfl⟩ : k = 0 ∧ some e = answer := by
      cases k with
      | zero => simpa using hk
      | succ k => simp at hk
    exact answered_by_failure hfailed
  whole := by simp
  retried := by
    refine iff_of_false (by simp) ?_
    rintro ⟨_, e', he', hset'⟩
    obtain rfl : e = e' := by simpa using he'
    rw [hset] at hset'
    cases hset'
  bounded := by simp
  goesOn k e' hlt := by simp at hlt
  result := Or.inr ⟨e, rfl, rfl, hset⟩

/-- A change that goes on after the request for the whole. -/
theorem Conducted.of_retried {failures : Nat → Option CloudError} {e : CloudError}
    {answers : List (Option CloudError)} {result : Except MembershipError Unit}
    {made : List String} (hfailed : ∀ e', failures 0 = some e' → some e = some e')
    (hset : Membership.alreadySettled a.change e = true) (hlen : 1 < a.ranges.elements.length)
    (h : Retried a.change (fun k => failures (k + 1)) a.ranges.elements answers result made) :
    a.Conducted failures (some e :: answers) result where
  answered k answer hk := by
    cases k with
    | zero =>
        obtain rfl : some e = answer := by simpa using hk
        exact ⟨hfailed, fun _ e' he' => Option.some.inj he' ▸ hset⟩
    | succ k => exact h.answer (by simpa using hk)
  whole := by simp
  retried := by
    have hpos := h.length_pos (List.length_pos_iff.1 (by omega))
    exact iff_of_true (by simpa using hpos) ⟨hlen, e, rfl, hset⟩
  bounded := by simpa using h.length_le
  goesOn k e' hlt hk := by
    cases k with
    | zero =>
        obtain rfl : e = e' := by simpa using hk
        exact hset
    | succ k => exact h.settled_of_lt (by simpa using hlt) (by simpa using hk)
  result := by
    rcases h.result_cases with ⟨hok, hlength, hall⟩ | ⟨e', herr, hlast, hnot⟩
    · refine Or.inl ⟨hok, fun e' he' => ?_, fun _ => by simpa using hlength⟩
      rcases List.mem_cons.1 he' with heq | he'
      · rwa [Option.some.inj heq]
      · exact hall e' he'
    · exact Or.inr ⟨e', herr, by rw [List.getLast?_cons, hlast]; rfl, hnot⟩

/-- **What an interrupted change has made**: the address ranges asked for before the request that
failed, without those whose requests were to fail. -/
def Partial (a : AclChange) (failures : Nat → Option CloudError)
    (answers : List (Option CloudError)) (made : CidrSet) : Prop :=
  ∀ x, x ∈ made ↔ ∃ k, k + 2 < answers.length ∧ a.ranges.elements[k]? = some x ∧
    failures (k + 1) = none

/-- The request that failed was to fail, so it is none of those that made anything. -/
theorem partial_of_retried {failures : Nat → Option CloudError} {first : Option CloudError}
    {answers : List (Option CloudError)} {e : MembershipError} {made : List String}
    (h : Retried a.change (fun k => failures (k + 1)) a.ranges.elements answers (.error e) made) :
    a.Partial failures (first :: answers) (.ofList made) := by
  intro x
  rw [CidrSet.mem_ofList, h.mem_made]
  constructor
  · rintro ⟨k, hk, hx, hnone⟩
    refine ⟨k, ?_, hx, hnone⟩
    -- the last answer does not say that its request is settled, so it was asked for
    by_contra hlast
    rcases h.result_cases with ⟨hok, _⟩ | ⟨e', _, hgetLast, hnot⟩
    · cases hok
    · rw [List.length_cons] at hlast
      have hlast : k = answers.length - 1 := by omega
      rw [List.getLast?_eq_getElem?, ← hlast] at hgetLast
      rw [(h.answer hgetLast).2 hnone e' rfl] at hnot
      cases hnot
  · rintro ⟨k, hk, hx, hnone⟩
    rw [List.length_cons] at hk
    exact ⟨k, by omega, hx, hnone⟩

/-- **A change carried out as far as it comes**: how it goes through its requests, what is made of
the permissions by then, and what that is if it fails. -/
structure CarriedOut (a : AclChange) (s : MembershipSettings) (w : Surroundings s.aclGroupName)
    (c : Cloud) (ps : List IngressRule) (answers : List (Option CloudError)) (made : CidrSet)
    (ps' : List IngressRule) (after : Except MembershipError Unit × Cloud) : Prop where
  conducted : a.Conducted c.faults.failure answers after.1
  requests : after.2.requests = c.requests ++ (a.requests s).zip answers
  store : after.2.store = w.store ps'
  makes : a.Makes made ps ps'
  subset : ∀ x ∈ made, x ∈ a.ranges
  interrupted : ∀ e, after.1 = .error e → a.Partial c.faults.failure answers made

/-- A change goes on when the answer for the whole says that it is settled: it asks for each address
range, or there is but one. -/
theorem carriedOut_of_settled {c₁ : Cloud} {e : CloudError} {line : LogLine}
    (hstore : c₁.store = w.store ps) (hd : DistinctSlots ps)
    (hp : c.Proceeds c₁ (a.request s a.ranges) (some e))
    (hfailed : ∀ e', c.faults.failure 0 = some e' → some e = some e')
    (hset : Membership.alreadySettled a.change e = true) :
    ∃ answers made ps', a.CarriedOut s w c ps answers made ps'
      (Plan.run (if 1 < a.ranges.elements.length then
        Membership.changeEach a.change s.aclGroupName a.fromPort a.toPort a.ranges.elements
        else .report line (.done (.ok ()))) c₁) := by
  by_cases hlen : 1 < a.ranges.elements.length
  · obtain ⟨answers, result, made, c₂, ps₂, hrun, hretried, hrequests, hstore₂, hmakes⟩ :=
      changeEach_retried hstore hd a a.ranges.elements
    rw [hp.failures_eq] at hretried
    rw [if_pos hlen, hrun]
    refine ⟨some e :: answers, .ofList made, ps₂, .of_retried hfailed hset hlen hretried, ?_,
      hstore₂, hmakes, fun x hx => ?_, fun err herr => ?_⟩
    · rw [hrequests, hp.requests, requests, List.zip_cons_cons, List.append_assoc,
        List.singleton_append]
    · obtain ⟨k, _, hk, _⟩ := hretried.mem_made.1 (CidrSet.mem_ofList.1 hx)
      exact List.mem_of_getElem? hk
    · obtain rfl : result = .error err := herr
      exact partial_of_retried hretried
  · rw [if_neg hlen]
    refine ⟨[some e], .empty, ps, .of_one hfailed fun e' he' => ?_, ?_, hstore,
      .of_settled hd fun x hx => absurd hx (CidrSet.not_mem_empty x),
      fun x hx => absurd hx (CidrSet.not_mem_empty x), fun err herr => by cases herr⟩
    · exact ⟨Option.some.inj he' ▸ hset, Nat.not_lt.1 hlen⟩
    · rw [zip_requests_one]
      exact hp.requests

/-- **All requests of a change.** -/
theorem plan_carriedOut (h : c.store = w.store ps) (hd : DistinctSlots ps) (a : AclChange)
    (hne : a.ranges.isEmpty = false) :
    ∃ answers made ps', a.CarriedOut s w c ps answers made ps'
      ((Membership.changePlan a.change s.aclGroupName a.ranges a.fromPort a.toPort).run c) := by
  obtain ⟨answer, c₁, ps₁, heq, hp, hstore, hreply⟩ := reply h hd a a.ranges hne
  rw [Membership.changePlan, Plan.run, heq]
  cases hreply with
  | failed e he =>
      cases hset : Membership.alreadySettled a.change e with
      | true =>
          simp only [told, hset, if_true]
          exact carriedOut_of_settled hstore hd hp (fun e' he' => he.symm.trans he') hset
      | false =>
          simp only [told, hset, Bool.false_eq_true, if_false]
          refine ⟨[some e], .empty, ps, .of_stopped he hset, ?_, hstore,
            .of_settled hd fun x hx => absurd hx (CidrSet.not_mem_empty x),
            fun x hx => absurd hx (CidrSet.not_mem_empty x), fun err _ x => ?_⟩
          · rw [zip_requests_one]
            exact hp.requests
          · refine iff_of_false (CidrSet.not_mem_empty x) ?_
            rintro ⟨k, hk, _⟩
            simp at hk
  | settled _ hnone hmakes =>
      refine ⟨[none], a.ranges, ps₁, .of_one (fun e he => ?_) (fun e he => by cases he), ?_, hstore,
        hmakes, fun x hx => hx, fun err herr => by cases herr⟩
      · rw [hnone] at he
        cases he
      · rw [zip_requests_one]
        exact hp.requests
  | refused text x hnone hx hsettled =>
      have hset := Membership.alreadySettled_refusal a.change text
      simp only [told, hset, if_true]
      refine carriedOut_of_settled hstore hd hp (fun e' he' => ?_) hset
      rw [hnone] at he'
      cases he'

/-! ### The operation -/

/-- A change that opens its client is carried out as far as it comes, and its client is released. -/
theorem run_carriedOut (h : c.store = w.store ps) (hd : DistinctSlots ps) (a : AclChange)
    (hne : a.ranges.isEmpty = false) (hopen : c.faults.nextOpen = none) :
    ∃ answers made ps' c' release,
      a.CarriedOut s w c ps answers made ps' (((a.operation s).run c).1, c') ∧
      ((a.operation s).run c).2.requests = c'.requests ++ [(.shutdown, release)] ∧
      ((a.operation s).run c).2.store = c'.store := by
  -- the opening counts the client, which none of the requests looks at
  obtain ⟨lease, c₁, heq, hfresh, hfaults, hrequests, hstore⟩ : ∃ lease c₁,
      c.open s.ec2Endpoint = (.ok lease, c₁) ∧ lease.Fresh ∧ c₁.faults = c.faults ∧
        c₁.requests = c.requests ∧ c₁.store = c.store := by
    refine ⟨{ endpoint := s.ec2Endpoint }, (c.open s.ec2Endpoint).2, ?_, ⟨rfl, rfl⟩, ?_⟩
    · rw [Cloud.open, hopen]
    · rw [Cloud.open, hopen]
      exact ⟨rfl, rfl, rfl⟩
  obtain ⟨answers, made, ps', hplan⟩ := plan_carriedOut (hstore.trans h) hd a hne
  rw [operation_eq, Membership.changeIngress, if_neg (by simp [hne])]
  simp only [Operation.run, heq]
  generalize Plan.run _ c₁ = after at hplan
  obtain ⟨result, c₂⟩ := after
  have hend := c₂.untouched_finish lease (succeeded result)
  refine ⟨answers, made, ps', c₂, if c₂.faults.releases then some Cloud.releaseFailure else none,
    ⟨hfaults ▸ hplan.conducted, hrequests ▸ hplan.requests, hplan.store, hplan.makes, hplan.subset,
      hfaults ▸ hplan.interrupted⟩, ?_, ?_⟩
  · have hreleased := c₂.requests_afterRelease (Cloud.finishWarning (succeeded result))
    rw [← Cloud.finish_of_fresh hfresh] at hreleased
    rw [Cloud.foldl_report]
    split
    · exact hreleased
    · exact hreleased
  · rw [Cloud.foldl_report]
    split
    · exact hend.store
    · exact hend.store

/-- **Whatever fails, a change makes nothing but part of itself.** -/
theorem run_evolves (h : c.store = w.store ps) (hd : DistinctSlots ps) (a : AclChange) :
    ∃ ps', ((a.operation s).run c).2.store = w.store ps' ∧ a.Evolves ps ps' := by
  cases hne : a.ranges.isEmpty with
  | true =>
      refine ⟨ps, ?_, .refl hd⟩
      rw [operation_eq, Membership.changeIngress, if_pos hne]
      exact h
  | false =>
      cases hopen : c.faults.nextOpen with
      | some e =>
          refine ⟨ps, ?_, .refl hd⟩
          rw [operation_eq, Membership.changeIngress, if_neg (by simp [hne]), Operation.run,
            Cloud.open_of_some hopen]
          exact h
      | none =>
          obtain ⟨answers, made, ps', c', release, hcarried, _, hstore⟩ :=
            run_carriedOut h hd a hne hopen
          refine ⟨ps', hstore.trans hcarried.store, ⟨made, hcarried.subset, ?_⟩, ?_⟩
          · exact hcarried.makes.changed
          · exact hcarried.makes.others

/-! ### Repetitions -/

/-- The provider after a number of attempts at a change, each with failures of its own. -/
def attempted (s : MembershipSettings) (a : AclChange) (attempts : List Faults) (c : Cloud) :
    Cloud :=
  attempts.foldl (fun c f => ((a.operation s).run (c.under f)).2) c

/-- Attempts leave the set of the slot between what it was and what the change makes of it. -/
theorem attempted_evolves (h : c.store = w.store ps) (hd : DistinctSlots ps) (a : AclChange)
    (attempts : List Faults) :
    ∃ ps' made, (a.attempted s attempts c).store = w.store ps' ∧ (∀ x ∈ made, x ∈ a.ranges) ∧
      Changed a.change a.slot made ps ps' := by
  induction attempts generalizing c ps with
  | nil =>
      refine ⟨ps, .empty, h, fun x hx => absurd hx (CidrSet.not_mem_empty x), ?_⟩
      exact .of_settled hd fun x hx => absurd hx (CidrSet.not_mem_empty x)
  | cons f attempts ih =>
      have hunder : (c.under f).store = w.store ps := h
      obtain ⟨ps₁, hstore₁, he⟩ := run_evolves hunder hd a
      obtain ⟨made₁, hsub₁, hch₁⟩ := he.changed
      obtain ⟨ps₂, made₂, hstore₂, hsub₂, hch₂⟩ := ih hstore₁ he.distinct
      refine ⟨ps₂, made₁.union made₂, hstore₂, fun x hx => ?_, hch₁.trans hch₂⟩
      exact (CidrSet.mem_union.1 hx).elim (hsub₁ x) (hsub₂ x)

/-- A change that does not fail makes all of itself. -/
theorem run_settled (h : c.store = w.store ps) (hd : DistinctSlots ps) (a : AclChange) :
    ((a.operation s).run (c.under {})).1 = .ok () ∧
      ((a.operation s).run (c.under {})).2.store.rangesIn s.aclGroupName a.slot =
        some (a.change.on (rangesOf a.slot ps) a.ranges) := by
  have hserves : (c.under {}).Serves w ps := ⟨⟨rfl, rfl, fun _ hf => by cases hf⟩, h⟩
  obtain ⟨c', ps', hrun, hs, _, hch⟩ :=
    (Membership.changeLaw_changed a.change a.fromPort a.toPort).changeIngress_run s hserves hd
      a.ranges
  rw [← a.operation_eq] at hrun
  rw [hrun, hs.store, w.rangesIn_store]
  exact ⟨rfl, congrArg some hch.ranges⟩

end AclChange

/-- **What an interrupted change has made, and what becomes of it when it is repeated.**  Let the
security group of the ring be there with rules of distinct slots, and let a change ask for some
address ranges.  Then, whatever failures are asked for of the coming requests:

* if its client can be opened, the change makes a request for the whole and, exactly if that is
  refused as settled and there is more than one address range, requests for each of them in
  ascending order, up to the first that fails in another way, which is its result; if it fails, its
  slot is changed by the address ranges that were asked for one by one before the request that
  failed, without those whose requests were to fail, and nothing else is changed;
* after any number of attempts at the change, whatever failures are asked for in each of them, the
  change without failures succeeds, and its slot has the set that it has after the change of the
  first permissions without failures. -/
theorem interrupted_changes_are_partial (s : MembershipSettings) {c : Cloud} {g : SecurityGroup}
    (hg : c.store.securityGroup? s.aclGroupName = some g) (hd : DistinctSlots g.permissions)
    (a : AclChange) (hne : a.cidrs ≠ []) :
    (c.faults.nextOpen = none →
      ∃ (answers : List (Option CloudError)) (release : Option CloudError)
        (w : Surroundings s.aclGroupName) (ps : List IngressRule),
        ((a.operation s).run c).2.requests =
          c.requests ++ (a.requests s).zip answers ++ [(.shutdown, release)] ∧
        a.Conducted c.faults.failure answers ((a.operation s).run c).1 ∧
        c.store = w.store g.permissions ∧ ((a.operation s).run c).2.store = w.store ps ∧
        ∀ e, ((a.operation s).run c).1 = .error e →
          ∃ made, a.Partial c.faults.failure answers made ∧ a.Makes made g.permissions ps) ∧
    ∀ attempts : List Faults,
      ((a.operation s).run ((a.attempted s attempts c).under {})).1 = .ok () ∧
      ((a.operation s).run ((a.attempted s attempts c).under {})).2.store.rangesIn
          s.aclGroupName a.slot =
        ((a.operation s).run (c.under {})).2.store.rangesIn s.aclGroupName a.slot := by
  obtain ⟨w, hw⟩ := Surroundings.exists_store hg
  refine ⟨fun hopen => ?_, fun attempts => ?_⟩
  · have hranges : a.ranges.isEmpty = false :=
      Bool.eq_false_iff.2 (mt (RingCall.isEmpty_ofList a.cidrs).1 hne)
    obtain ⟨answers, made, ps', c', release, hcarried, hrequests, hstore⟩ :=
      AclChange.run_carriedOut hw hd a hranges hopen
    refine ⟨answers, release, w, ps', ?_, hcarried.conducted, hw, hstore.trans hcarried.store,
      fun e he => ⟨made, hcarried.interrupted e he, hcarried.makes⟩⟩
    rw [hrequests, hcarried.requests]
  · obtain ⟨ps', made, hstore, hsub, hch⟩ := AclChange.attempted_evolves hw hd a attempts
    obtain ⟨hok, hset⟩ := AclChange.run_settled hstore hch.distinct a
    refine ⟨hok, ?_⟩
    -- what the attempts have made is part of what is asked for again
    have hunion : made.union a.ranges = a.ranges := CidrSet.ext fun x => by
      rw [CidrSet.mem_union]
      exact ⟨fun hx => hx.elim (hsub x) id, Or.inr⟩
    rw [hset, (AclChange.run_settled hw hd a).2, hch.ranges, IngressChange.on_union, hunion]

/-- An addition of which the request for the whole is told that it is settled, one address range is
passed over for a failure that says so, and the next request fails; it is then tried once more
without a client, and again. -/
theorem interrupted_changes_are_partial_of_timeout :
    let s : MembershipSettings := ⟨"ring", none, ["a"], "acl", "dc"⟩
    let g : SecurityGroup := ⟨"acl", [.tcp (.singleton "10.0.0.9/32") 7000 7001]⟩
    let early : CloudError := .duplicatePermission "early"
    let c : Cloud := { store := ⟨[], [g]⟩,
                       faults := { script := [some early, none, some early,
                         some (.transport "timeout")] } }
    let a : AclChange :=
      ⟨.authorize, ["10.0.0.3/32", "10.0.0.1/32", "10.0.0.4/32", "10.0.0.2/32"], 7000, 7001⟩
    let attempts : List Faults := [c.faults, { nextOpen := some (.transport "refused") }]
    c.store.securityGroup? s.aclGroupName = some g ∧ DistinctSlots g.permissions ∧ a.cidrs ≠ [] ∧
      c.faults.nextOpen = none ∧
      ((a.operation s).run c).1 = .error (.cloud (.transport "timeout")) ∧
      (∃ answers made ps, a.Conducted c.faults.failure answers ((a.operation s).run c).1 ∧
        a.Partial c.faults.failure answers made ∧ a.Makes made g.permissions ps) ∧
      ((a.operation s).run ((a.attempted s attempts c).under {})).2.store.rangesIn
          s.aclGroupName a.slot =
        ((a.operation s).run (c.under {})).2.store.rangesIn s.aclGroupName a.slot := by
  intro s g early c a attempts
  have hg : c.store.securityGroup? s.aclGroupName = some g := by decide
  have hd : DistinctSlots g.permissions := by decide
  have hne : a.cidrs ≠ [] := by decide
  have hopen : c.faults.nextOpen = none := rfl
  have hfails : ((a.operation s).run c).1 = .error (.cloud (.transport "timeout")) := by decide
  obtain ⟨hcourse, hrepeated⟩ := interrupted_changes_are_partial s hg hd a hne
  obtain ⟨answers, release, w, ps, -, hconducted, -, -, hpartial⟩ := hcourse hopen
  obtain ⟨made, hmade, hmakes⟩ := hpartial _ hfails
  exact ⟨hg, hd, hne, hopen, hfails, ⟨answers, made, ps, hconducted, hmade, hmakes⟩,
    (hrepeated attempts).2⟩

end NodeSidecar
