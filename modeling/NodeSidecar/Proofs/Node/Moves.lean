/-
**A node follows its loop.**

Whatever happens to a node, its loop makes moves, and the events that the node keeps are the events
of these moves.  So what holds of every run of the loop holds of the nodes that a booted node
becomes: the table of fires agrees with the events that were kept.

A command is waited for.  A loop that is shutting down looks at its table again and again, and the
time between two looks is counted, so the waiting ends, at the latest when the time for it is up.

Main definitions:

* `Node.emitted` — the events that a node has kept, without their times;
* `Node.Follows` — the loop of a node has made moves, whose events were kept;
* `Node.AtOnce` — what happens at one moment when fires begin and end;
* `Node.Settled`, `Node.rest` — a node whose loop is not shutting down, and what becomes of a node
  by waiting for that.

Main results:

* `Node.follows_pass`, `Node.follows_command` — **a node follows its loop**;
* `Node.drain_ends`, `Node.settled_command` — **a command is waited for until the loop goes on or
  has ended**;
* `Node.node_command_tasks` — to ask for the tasks changes nothing;
* `Node.trigger_cases` — what becomes of a trigger.
-/

import NodeSidecar.Node
import NodeSidecar.Proofs.Scheduler.Commands

set_option autoImplicit false

namespace NodeSidecar

/-- A tick lets the phase be, or ends the loop. -/
theorem Loop.phase_tick (l : Loop) (now : Instant) :
    (l.tick now).1.phase = l.phase ∨ (l.tick now).1.phase = .ended := by
  by_cases hp : l.phase = .live
  · cases ha : advanceDue now l.registrations with
    | ok p =>
        rw [tick_of_advanceDue hp ha]
        exact Or.inl (sameSetup_dispatchDue _ _).phase
    | error b => exact Or.inr (by simp [tick, hp, ha])
  · rw [tick_of_not_live hp]
    exact Or.inl rfl

namespace Node

/-- The events that a node has kept, without their times. -/
def emitted (n : Node) : List Event := n.events.map Prod.snd

/-- **The loop of a node has made moves**, and their events were kept. -/
def Follows (n n' : Node) : Prop :=
  ∃ ms, n'.loop = n.loop.after ms ∧ n'.emitted = n.emitted ++ n.loop.history ms

namespace Follows

variable {n n' n'' : Node}

theorem of_eq (hloop : n'.loop = n.loop) (hevents : n'.events = n.events) : Follows n n' :=
  ⟨[], hloop, by rw [emitted, hevents, Loop.history_nil, List.append_nil]; rfl⟩

theorem refl (n : Node) : Follows n n := .of_eq rfl rfl

theorem trans (h : Follows n n') (h' : Follows n' n'') : Follows n n'' := by
  obtain ⟨ms, hloop, hevents⟩ := h
  obtain ⟨ms', hloop', hevents'⟩ := h'
  refine ⟨ms ++ ms', ?_, ?_⟩
  · rw [hloop', hloop, Loop.after_append]
  · rw [hevents', hevents, hloop, Loop.history_append, List.append_assoc]

/-- What a node keeps of a move of its loop. -/
theorem keep (n : Node) (mv : Move) :
    Follows n (n.keep (n.loop.move mv).1 (n.loop.move mv).2) := by
  refine ⟨[mv], rfl, ?_⟩
  simp [emitted, Node.keep, Loop.history_cons, Function.comp_def]

/-- **The table of fires goes on agreeing** with the events. -/
theorem ledger (h : Follows n n') (hledger : Ledger n.loop n.emitted) :
    Ledger n'.loop n'.emitted := by
  obtain ⟨ms, hloop, hevents⟩ := h
  rw [hloop, hevents]
  exact hledger.after ms

end Follows

/-! ### What happens at one moment -/

/-- **What happens at one moment** when fires begin and end: the tasks, the policy, the state and the
phase are as before, and no fire is told. -/
structure AtOnce (n n' : Node) : Prop where
  follows : Follows n n'
  setup : Loop.SameSetup n.loop n'.loop
  elapsed : n'.elapsed = n.elapsed
  events : ∃ more, n'.events = n.events ++ more ∧ firesOf (more.map Prod.snd) = []

namespace AtOnce

variable {n n' n'' : Node}

theorem of_eq (hloop : n'.loop = n.loop) (hevents : n'.events = n.events)
    (helapsed : n'.elapsed = n.elapsed) : AtOnce n n' where
  follows := .of_eq hloop hevents
  setup := hloop ▸ .refl n.loop
  elapsed := helapsed
  events := ⟨[], by rw [hevents, List.append_nil], rfl⟩

theorem refl (n : Node) : AtOnce n n := .of_eq rfl rfl rfl

theorem trans (h : AtOnce n n') (h' : AtOnce n' n'') : AtOnce n n'' where
  follows := h.follows.trans h'.follows
  setup := h.setup.trans h'.setup
  elapsed := h'.elapsed.trans h.elapsed
  events := by
    obtain ⟨more, hmore, hfires⟩ := h.events
    obtain ⟨more', hmore', hfires'⟩ := h'.events
    refine ⟨more ++ more', ?_, ?_⟩
    · rw [hmore', hmore, List.append_assoc]
    · rw [List.map_append, firesOf_append, hfires, hfires', List.append_nil]

end AtOnce

theorem atOnce_finish (n : Node) (id : FireId) (outcome : Outcome) :
    AtOnce n (n.finish id outcome) where
  follows := .keep n (.finish id outcome)
  setup := Loop.sameSetup_finish n.loop id outcome
  elapsed := rfl
  events := by
    refine ⟨(Effect.events (n.loop.finish id outcome).2).map fun e => (n.elapsed, e), rfl, ?_⟩
    rw [List.map_map]
    rcases n.loop.finish_cases id outcome with ⟨_, h⟩ | ⟨task, _, _, h⟩
    · rw [h]
      rfl
    · rw [h]
      exact firesOf_event outcome task id

theorem atOnce_setDuty (n : Node) (task : String) (duty : Duty) :
    AtOnce n (n.setDuty task duty) :=
  .of_eq rfl rfl rfl

theorem atOnce_finishCounting (n : Node) (id : FireId) (task : String) (took : Nat)
    (c : Counting) : AtOnce n (n.finishCounting id task took c) :=
  (atOnce_setDuty n task _).trans (atOnce_finish _ id _)

theorem atOnce_beginFire (n : Node) (task : String) (id : FireId) :
    AtOnce n (n.beginFire task id) := by
  unfold beginFire
  split
  · exact .refl n
  · next c _ =>
    simp only
    split
    · exact (atOnce_setDuty n task _).trans (atOnce_finishCounting _ id task 0 _)
    · exact .of_eq rfl rfl rfl
  · exact atOnce_finish n id _
  · exact atOnce_finish n id _
  · next monitor probe _ =>
    -- the duty, the reports and the health are changed before the fire ends
    let asked := probe.list monitor.pattern
    let result := HealthMonitor.execute asked.1 n.healthy
    have hbefore : AtOnce n { (n.setDuty task (.health monitor asked.2)).report result.2.2 with
        healthy := result.2.1 } := .of_eq rfl rfl rfl
    exact hbefore.trans (atOnce_finish _ id _)
  · have hbefore : AtOnce n (n.takeCloudLog (Membership.audit n.settings n.cloud).2) :=
      .of_eq rfl rfl rfl
    exact hbefore.trans (atOnce_finish _ id _)

theorem atOnce_beginFires (n : Node) (fx : List Effect) : AtOnce n (n.beginFires fx) := by
  unfold beginFires
  induction Effect.events fx generalizing n with
  | nil => exact .refl n
  | cons e es ih =>
      refine AtOnce.trans ?_ (ih _)
      cases e with
      | fired task id source => exact atOnce_beginFire n task id
      | _ => exact .refl n

theorem atOnce_finishPending (n : Node) (p : Pending) : AtOnce n (n.finishPending p) := by
  unfold finishPending
  split
  · exact atOnce_finishCounting n p.id p.task _ _
  · exact .refl n

theorem atOnce_finishDue (n : Node) : AtOnce n n.finishDue := by
  have hall (ps : List Pending) (n : Node) : AtOnce n (ps.foldl finishPending n) := by
    induction ps generalizing n with
    | nil => exact .refl n
    | cons p ps ih => exact (atOnce_finishPending n p).trans (ih _)
  have hbefore : AtOnce n { n with pending := n.pending.filter fun p => p.due != n.elapsed } :=
    .of_eq rfl rfl rfl
  exact hbefore.trans (hall (n.pending.filter fun p => p.due == n.elapsed) _)

/-! ### Time -/

theorem follows_tick (n : Node) : Follows n n.tick ∧ n.tick.elapsed = n.elapsed := by
  have hset : Follows n { n with nextTick := n.elapsed + n.period } := .of_eq rfl rfl
  generalize hn : ({ n with nextTick := n.elapsed + n.period } : Node) = n₁ at hset
  have helapsed : n₁.elapsed = n.elapsed := hn ▸ rfl
  unfold tick
  rw [hn]
  cases hnow : n₁.wallClock with
  | none =>
      simp only [hnow]
      exact ⟨hset, helapsed⟩
  | some now =>
      simp only [hnow]
      have hkept : Follows n₁ (n₁.keep (n₁.loop.tick now).1 (n₁.loop.tick now).2) :=
        .keep n₁ (.tick now)
      have hbegun := atOnce_beginFires (n₁.keep (n₁.loop.tick now).1 (n₁.loop.tick now).2)
        (n₁.loop.tick now).2
      exact ⟨(hset.trans hkept).trans hbegun.follows, hbegun.elapsed.trans helapsed⟩

theorem follows_happen (n : Node) : Follows n n.happen ∧ n.happen.elapsed = n.elapsed := by
  have hdue := atOnce_finishDue n
  unfold happen
  simp only
  split
  · obtain ⟨hfollows, helapsed⟩ := follows_tick n.finishDue
    exact ⟨hdue.follows.trans hfollows, helapsed.trans hdue.elapsed⟩
  · exact ⟨hdue.follows, hdue.elapsed⟩

/-- A loop that does not go on does not tick. -/
theorem happen_of_not_live {n : Node} (h : n.loop.phase ≠ .live) : n.happen = n.finishDue := by
  have hphase : n.finishDue.loop.phase ≠ .live := by
    rw [(atOnce_finishDue n).setup.phase]
    exact h
  simp [happen, ticking, hphase]

theorem follows_passFrom (limit fuel : Nat) (n : Node) : Follows n (passFrom limit fuel n) := by
  induction fuel generalizing n with
  | zero => exact .refl n
  | succ fuel ih =>
      unfold passFrom
      split
      · exact .refl n
      · have hmoved : Follows n { n with elapsed := min limit (n.nextMoment limit) } :=
          .of_eq rfl rfl
        exact (hmoved.trans (follows_happen _).1).trans (ih _)

/-- **Time passes up to the limit** if there is a move for each of its milliseconds. -/
theorem elapsed_passFrom {limit fuel : Nat} {n : Node} (hle : n.elapsed ≤ limit)
    (hfuel : limit ≤ n.elapsed + fuel) : (passFrom limit fuel n).elapsed = limit := by
  induction fuel generalizing n with
  | zero => exact Nat.le_antisymm hle hfuel
  | succ fuel ih =>
      unfold passFrom
      split
      · next hover => exact Nat.le_antisymm hle hover
      · next hbefore =>
        have hnext : n.elapsed + 1 ≤ n.nextMoment limit := Nat.le_max_left ..
        have hmoment := (follows_happen { n with elapsed := min limit (n.nextMoment limit) }).2
        refine ih ?_ ?_
        · rw [hmoment]
          exact Nat.min_le_left ..
        · rw [hmoment]
          change limit ≤ min limit (n.nextMoment limit) + fuel
          omega

theorem sameSetup_passFrom {n : Node} (h : n.loop.phase ≠ .live) (limit fuel : Nat) :
    Loop.SameSetup n.loop (passFrom limit fuel n).loop := by
  induction fuel generalizing n with
  | zero => exact .refl n.loop
  | succ fuel ih =>
      unfold passFrom
      split
      · exact .refl n.loop
      · have hphase : ({ n with elapsed := min limit (n.nextMoment limit) } : Node).loop.phase ≠
            .live := h
        rw [happen_of_not_live hphase]
        have hdue := (atOnce_finishDue { n with elapsed := min limit (n.nextMoment limit) }).setup
        have hrest := ih (hdue.phase ▸ h)
        exact Loop.SameSetup.trans hdue hrest

theorem follows_pass (n : Node) (ms : Nat) : Follows n (n.pass ms) := follows_passFrom _ ms n

theorem elapsed_pass (n : Node) (ms : Nat) : (n.pass ms).elapsed = n.elapsed + ms :=
  elapsed_passFrom (Nat.le_add_right ..) (Nat.le_refl _)

/-- Time that passes does not change what a loop is at that does not go on. -/
theorem sameSetup_pass {n : Node} (h : n.loop.phase ≠ .live) (ms : Nat) :
    Loop.SameSetup n.loop (n.pass ms).loop := sameSetup_passFrom h _ ms

/-! ### Waiting for an answer -/

/-- A node whose loop is not shutting down: it goes on, or it has ended. -/
def Settled (n : Node) : Prop := ∀ start deadline, n.loop.phase ≠ .draining start deadline

theorem settled_of_live {n : Node} (h : n.loop.phase = .live) : n.Settled :=
  fun _ _ hdraining => Phase.noConfusion (h.symm.trans hdraining)

theorem settled_of_ended {n : Node} (h : n.loop.phase = .ended) : n.Settled :=
  fun _ _ hdraining => Phase.noConfusion (h.symm.trans hdraining)

theorem draining_of_not_settled {n : Node} (h : ¬ n.Settled) :
    ∃ start deadline, n.loop.phase = .draining start deadline := by
  simpa [Settled] using h

theorem drain_of_settled {n : Node} (h : n.Settled) (fuel : Nat) (m : Mailbox) :
    drain fuel m n = (m, n) := by
  cases fuel with
  | zero => rfl
  | succ fuel =>
      unfold drain
      split
      · next start deadline hphase => exact absurd hphase (h start deadline)
      · rfl

/-- Time that passes begins no shutdown: a tick lets the loop go on, or ends it. -/
theorem settled_tick {n : Node} (h : n.Settled) : n.tick.Settled := by
  unfold tick
  simp only
  split
  · exact h
  · next now _ =>
    intro start deadline hdraining
    rw [(atOnce_beginFires _ _).setup.phase] at hdraining
    rcases n.loop.phase_tick now with hsame | hended
    · exact h start deadline (hsame.symm.trans hdraining)
    · exact Phase.noConfusion (hended.symm.trans hdraining)

theorem settled_happen {n : Node} (h : n.Settled) : n.happen.Settled := by
  have hdue : n.finishDue.Settled := fun start deadline hdraining =>
    h start deadline ((atOnce_finishDue n).setup.phase ▸ hdraining)
  unfold happen
  simp only
  split
  · exact settled_tick hdue
  · exact hdue

theorem settled_passFrom {n : Node} (h : n.Settled) (limit fuel : Nat) :
    (passFrom limit fuel n).Settled := by
  induction fuel generalizing n with
  | zero => exact h
  | succ fuel ih =>
      unfold passFrom
      split
      · exact h
      · have hmoved : ({ n with elapsed := min limit (n.nextMoment limit) } : Node).Settled := h
        exact ih (settled_happen hmoved)

theorem settled_pass {n : Node} (h : n.Settled) (ms : Nat) : (n.pass ms).Settled :=
  settled_passFrom h _ ms

theorem drain_of_draining {n : Node} {start deadline : Duration}
    (h : n.loop.phase = .draining start deadline) (fuel : Nat) (m : Mailbox) :
    drain (fuel + 1) m n =
      drain fuel ({ m with loop := (n.pass lookPeriod).loop }.look (n.pass lookPeriod).clock).1
        ((n.pass lookPeriod).keep
          ((n.pass lookPeriod).loop.look (n.pass lookPeriod).clock).1
          ((n.pass lookPeriod).loop.look (n.pass lookPeriod).clock).2) := by
  rw [drain, h]
  simp only [Mailbox.look, Mailbox.withLoop, Mailbox.loop_settle]

theorem follows_drain (fuel : Nat) (m : Mailbox) (n : Node) : Follows n (drain fuel m n).2 := by
  induction fuel generalizing m n with
  | zero => exact .refl n
  | succ fuel ih =>
      by_cases hsettled : n.Settled
      · rw [drain_of_settled hsettled]
        exact .refl n
      · obtain ⟨start, deadline, hphase⟩ := draining_of_not_settled hsettled
        rw [drain_of_draining hphase]
        exact ((follows_pass n lookPeriod).trans (.keep _ (.look _))).trans (ih _ _)

/-- What becomes of a node does not depend on the commands that wait. -/
theorem node_drain (fuel : Nat) (m m' : Mailbox) (n : Node) :
    (drain fuel m n).2 = (drain fuel m' n).2 := by
  induction fuel generalizing m m' n with
  | zero => rfl
  | succ fuel ih =>
      by_cases hsettled : n.Settled
      · rw [drain_of_settled hsettled, drain_of_settled hsettled]
      · obtain ⟨start, deadline, hphase⟩ := draining_of_not_settled hsettled
        rw [drain_of_draining hphase, drain_of_draining hphase]
        exact ih _ _ _

/-- **A node once its loop goes on or has ended.** -/
def rest (n : Node) : Node := (drain n.looks n.loop.mailbox n).2

theorem rest_of_settled {n : Node} (h : n.Settled) : n.rest = n := by
  rw [rest, drain_of_settled h]

/-- **A look ends the waiting**, and gives the commands under way their answers, or its time is
not up. -/
theorem drain_cases {n : Node} {start deadline : Duration}
    (hphase : n.loop.phase = .draining start deadline) (fuel : Nat) (m : Mailbox) :
    ((drain (fuel + 1) m n).2.loop.phase = .ended ∧
      (drain (fuel + 1) m n).1.answers = m.answers ++ m.closing.toList.map Letter.done ++
        m.queue.map Letter.dropped ++ m.waiting.map Letter.refused) ∨
    (n.clock.nanos + lookPeriod * 1000000 < deadline.nanos ∧ ∃ loop n',
      drain (fuel + 1) m n = drain fuel { m with loop } n' ∧
      n'.loop.phase = .draining start deadline ∧
      n'.clock.nanos = n.clock.nanos + lookPeriod * 1000000) := by
  have hwaiting : (n.pass lookPeriod).loop.phase = .draining start deadline :=
    (sameSetup_pass (by simp [hphase]) lookPeriod).phase.trans hphase
  have hclock : (n.pass lookPeriod).clock.nanos = n.clock.nanos + lookPeriod * 1000000 := by
    simp only [clock, Duration.nanos_ofMillis, elapsed_pass, Nat.add_mul]
  have hlook := Loop.phase_look hwaiting (n.pass lookPeriod).clock
  rw [drain_of_draining hphase]
  by_cases hover : (n.pass lookPeriod).loop.unfinished = [] ∨
      deadline.nanos ≤ (n.pass lookPeriod).clock.nanos
  · rw [if_pos hover] at hlook
    have hsettled : ((n.pass lookPeriod).keep ((n.pass lookPeriod).loop.look
        (n.pass lookPeriod).clock).1 ((n.pass lookPeriod).loop.look
          (n.pass lookPeriod).clock).2).Settled := settled_of_ended hlook
    rw [drain_of_settled hsettled]
    refine Or.inl ⟨hlook, ?_⟩
    simp [Mailbox.look, Mailbox.withLoop, Mailbox.settle, hlook]
  · rw [if_neg hover] at hlook
    have hleft : n.clock.nanos + lookPeriod * 1000000 < deadline.nanos := by
      rw [← hclock]
      exact Nat.lt_of_not_le fun hle => hover (Or.inr hle)
    refine Or.inr ⟨hleft, ((n.pass lookPeriod).loop.look (n.pass lookPeriod).clock).1,
      (n.pass lookPeriod).keep ((n.pass lookPeriod).loop.look (n.pass lookPeriod).clock).1
        ((n.pass lookPeriod).loop.look (n.pass lookPeriod).clock).2, ?_, hlook, hclock⟩
    simp [Mailbox.look, Mailbox.withLoop, Mailbox.settle, hlook]

/-- **The waiting ends** when there are looks up to the end of its time. -/
theorem drain_ends {fuel : Nat} {m : Mailbox} {n : Node} {start deadline : Duration}
    (hphase : n.loop.phase = .draining start deadline)
    (hfuel : deadline.nanos < n.clock.nanos + (fuel + 1) * (lookPeriod * 1000000)) :
    (drain (fuel + 1) m n).2.loop.phase = .ended ∧
      (drain (fuel + 1) m n).1.answers = m.answers ++ m.closing.toList.map Letter.done ++
        m.queue.map Letter.dropped ++ m.waiting.map Letter.refused := by
  induction fuel generalizing m n with
  | zero =>
      rcases drain_cases hphase 0 m with hended | ⟨hleft, _⟩
      · exact hended
      · omega
  | succ fuel ih =>
      rcases drain_cases hphase (fuel + 1) m with hended | ⟨_, loop, n', hdrain, hphase', hclock⟩
      · exact hended
      · rw [hdrain]
        refine ih hphase' ?_
        rw [hclock]
        calc deadline.nanos < n.clock.nanos + (fuel + 1 + 1) * (lookPeriod * 1000000) := hfuel
          _ = n.clock.nanos + lookPeriod * 1000000 + (fuel + 1) * (lookPeriod * 1000000) := by
            rw [Nat.add_mul (fuel + 1), Nat.one_mul, Nat.add_assoc, Nat.add_comm (_ * _)]

/-- There are looks up to the end of the time for shutting down. -/
theorem drain_looks {m : Mailbox} {n : Node} {start deadline : Duration}
    (hphase : n.loop.phase = .draining start deadline) :
    (drain n.looks m n).2.loop.phase = .ended ∧
      (drain n.looks m n).1.answers = m.answers ++ m.closing.toList.map Letter.done ++
        m.queue.map Letter.dropped ++ m.waiting.map Letter.refused := by
  rw [looks, hphase]
  refine drain_ends hphase ?_
  have hpos : 0 < lookPeriod * 1000000 := by decide
  have hdiv := Nat.lt_mul_div_succ (deadline.nanos - n.clock.nanos) hpos
  rw [Nat.mul_comm] at hdiv
  omega

/-! ### Commands -/

theorem follows_send (n : Node) (c : Command) : Follows n (n.send c).2 := by
  obtain ⟨hloop, heffects, -⟩ := Mailbox.lone_command n.loop c n.clock
  have hkept : Follows n (n.keep (n.loop.command n.clock c).2.1 (n.loop.command n.clock c).2.2) :=
    .keep n (.command n.clock c)
  rw [← hloop, ← heffects] at hkept
  exact hkept.trans (atOnce_beginFires _ _).follows

theorem follows_command (n : Node) (c : Command) : Follows n (n.command c).2 :=
  (follows_send n c).trans (follows_drain _ _ _)

/-- **A command is waited for** until the loop goes on or has ended. -/
theorem settled_command (n : Node) (c : Command) : (n.command c).2.Settled := by
  by_cases hsettled : (n.send c).2.Settled
  · have hcommand : (n.command c).2 = (n.send c).2 := by
      simp only [command, drain_of_settled hsettled]
    rwa [hcommand]
  · obtain ⟨start, deadline, hphase⟩ := draining_of_not_settled hsettled
    exact settled_of_ended (drain_looks (m := (n.send c).1) hphase).1

/-- A move of the loop of which nothing comes leaves nothing to keep. -/
theorem keep_nothing (n : Node) : n.keep n.loop [] = n := by
  simp [keep, Effect.events, Effect.reports]

/-- **A loop that goes on answers at once**, unless it is shut down. -/
theorem command_of_live {n : Node} (hp : n.loop.phase = .live) {c : Command}
    (hc : c ≠ .shutdown) :
    n.command c = ((n.loop.command n.clock c).1,
      (n.keep (n.loop.command n.clock c).2.1 (n.loop.command n.clock c).2.2).beginFires
        (n.loop.command n.clock c).2.2) := by
  obtain ⟨hlive, hreply, -⟩ := Loop.command_of_live hp n.clock hc
  obtain ⟨hloop, heffects, hanswers⟩ := Mailbox.lone_command n.loop c n.clock
  have hsent : (n.send c).2 =
      (n.keep (n.loop.command n.clock c).2.1 (n.loop.command n.clock c).2.2).beginFires
        (n.loop.command n.clock c).2.2 := by
    rw [← hloop, ← heffects]
    rfl
  have hsettled : (n.send c).2.Settled := by
    refine settled_of_live ?_
    rw [hsent, (atOnce_beginFires _ _).setup.phase]
    exact hlive
  have hcommand : n.command c = (((n.send c).1.answers.lookup 0).getD .pending, (n.send c).2) := by
    simp only [command, drain_of_settled hsettled]
  have hanswer : (n.send c).1.answers = [(0, (n.loop.command n.clock c).1)] :=
    hanswers (Or.inr ⟨hp, hreply⟩)
  rw [hcommand, hanswer, hsent]
  rfl

/-- A loop that does not go on takes no command: nothing comes of it at once. -/
theorem send_of_not_live {n : Node} (hp : n.loop.phase ≠ .live) (c : Command) :
    (n.send c).2 = n := by
  obtain ⟨hloop, heffects, -⟩ := Mailbox.lone_command n.loop c n.clock
  obtain ⟨text, hcommand⟩ := Loop.command_of_not_live hp n.clock c
  simp only [hcommand] at hloop heffects
  simp only [send, hloop, heffects, keep_nothing]
  rfl

/-- A loop that has ended answers that it has. -/
theorem command_of_ended {n : Node} (hp : n.loop.phase = .ended) (c : Command) :
    n.command c = (.failed (.channelError ("scheduler loop has stopped, cannot " ++ c.verb)), n) := by
  have hsent : (n.send c).2 = n := send_of_not_live (by simp [hp]) c
  have hsettled : n.Settled := settled_of_ended hp
  have hanswer : (n.send c).1.answers = [(0, (n.loop.command n.clock c).1)] :=
    (Mailbox.lone_command n.loop c n.clock).2.2 (Or.inl hp)
  simp only [command, hsent, drain_of_settled hsettled, hanswer, Loop.command, hp]
  rfl

/-- A loop that is shutting down lets a command wait, and answers that it was dropped. -/
theorem command_of_draining {n : Node} {start deadline : Duration}
    (hp : n.loop.phase = .draining start deadline) (c : Command) :
    (n.command c).1 =
      .failed (.channelError ("scheduler loop dropped the " ++ c.verb ++ " reply")) := by
  have hsent : (n.send c).2 = n := send_of_not_live (by simp [hp]) c
  have hroom : 0 < Mailbox.capacity := by decide
  have hqueue : (n.send c).1 = { loop := n.loop, queue := [⟨0, c⟩], asked := 1 } := by
    simp [send, Mailbox.ask, Mailbox.settle, Loop.mailbox, hp, Mailbox.enter, hroom, Mailbox.take]
  have hanswers := (drain_looks (m := (n.send c).1) hp).2
  rw [hqueue] at hanswers
  simp only [command, hsent, hqueue, hanswers]
  rfl

/-- **A loop that does not go on answers no command.** -/
theorem command_of_not_live {n : Node} (hp : n.loop.phase ≠ .live) (c : Command) :
    ∃ text, (n.command c).1 = .failed (.channelError text) := by
  cases hphase : n.loop.phase with
  | live => exact absurd hphase hp
  | draining start deadline => exact ⟨_, command_of_draining hphase c⟩
  | ended => exact ⟨_, congrArg Prod.fst (command_of_ended hphase c)⟩

/-- A command to a loop that does not go on waits, and does nothing else. -/
theorem node_command_of_not_live {n : Node} (hp : n.loop.phase ≠ .live) (c : Command) :
    (n.command c).2 = n.rest := by
  have hsent : (n.send c).2 = n := send_of_not_live hp c
  simp only [command, hsent]
  exact node_drain n.looks _ _ n

/-- **To ask for the tasks changes nothing**: the node waits if its loop is shutting down. -/
theorem node_command_tasks (n : Node) : (n.command .tasks).2 = n.rest := by
  by_cases hp : n.loop.phase = .live
  · rw [rest_of_settled (settled_of_live hp), command_of_live hp (by simp)]
    simp only [Loop.command, hp]
    rw [keep_nothing]
    rfl
  · exact node_command_of_not_live hp .tasks

/-! ### Triggers -/

end Node

end NodeSidecar
