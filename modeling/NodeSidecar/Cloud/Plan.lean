/-
**Operations as sequences of requests.**

A plan is an operation broken up into its requests: either it is done, or it makes a report, or it
makes one request and goes on according to the answer.  Each request is atomic, so plans that run
at the same time interleave request by request.

Main definitions:

* `Plan` — a plan with its result;
* `Plan.step` — the plan after its next request;
* `Plan.run` — a plan carried out to its end.
-/

import NodeSidecar.Cloud.Client

set_option autoImplicit false

namespace NodeSidecar

/-- An operation, request by request. -/
inductive Plan (α : Type) where
  | done (result : α)
  | report (line : LogLine) (next : Plan α)
  | describeGroups (names : List String)
      (next : Except CloudError (List AutoScalingGroup) → Plan α)
  | updateGroup (update : CapacityUpdate) (next : Except CloudError Unit → Plan α)
  | changeIngress (change : IngressChange) (group : String) (rule : IngressRule)
      (next : Except CloudError Unit → Plan α)
  | describeSecurityGroups (names : List String)
      (next : Except CloudError (List SecurityGroup) → Plan α)

namespace Plan

variable {α : Type}

/-- The plan after its next request or report, and the provider after it. -/
def step : Plan α → Cloud → Plan α × Cloud
  | done a, c => (done a, c)
  | report line next, c => (next, c.report line)
  | describeGroups names next, c => let (r, c) := c.describeGroups names; (next r, c)
  | updateGroup update next, c => let (r, c) := c.updateGroup update; (next r, c)
  | changeIngress change group rule next, c =>
    let (r, c) := c.changeIngress change group rule; (next r, c)
  | describeSecurityGroups names next, c =>
    let (r, c) := c.describeSecurityGroups names; (next r, c)

/-- The result of a plan carried out to its end, and the provider after it. -/
def run : Plan α → Cloud → α × Cloud
  | done a, c => (a, c)
  | report line next, c => next.run (c.report line)
  | describeGroups names next, c => let (r, c) := c.describeGroups names; (next r).run c
  | updateGroup update next, c => let (r, c) := c.updateGroup update; (next r).run c
  | changeIngress change group rule next, c =>
    let (r, c) := c.changeIngress change group rule; (next r).run c
  | describeSecurityGroups names next, c =>
    let (r, c) := c.describeSecurityGroups names; (next r).run c

/-- A plan runs as it does after its next request. -/
theorem run_step (p : Plan α) (c : Cloud) : (p.step c).1.run (p.step c).2 = p.run c := by
  cases p <;> rfl

end Plan

end NodeSidecar
