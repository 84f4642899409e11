/-
**The node of a configuration.**

A configured node has the health monitor as a task, and the ring audit unless there is none.

Main definitions:

* `StartError` — why a node cannot be made;
* `SidecarConfig.bare` — the node without tasks;
* `SidecarConfig.node` — the node with its tasks.
-/

import NodeSidecar.Config.Basic
import NodeSidecar.Node

set_option autoImplicit false

namespace NodeSidecar

/-- Why a node cannot be made. -/
inductive StartError where
  | timer (error : TimerError)
  | scheduler (error : SchedulerError)

/-- The failure in words. -/
def StartError.message : StartError → String
  | .timer error => error.message
  | .scheduler error => error.message

namespace SidecarConfig

/-- The monitor of the managed process. -/
def monitor (c : SidecarConfig) : HealthMonitor := { pattern := c.processName }

/-- The node without tasks; its wall clock shows `origin`, in nanoseconds. -/
def bare (c : SidecarConfig) (origin : Int) : Node :=
  { loop := { overlap := c.scheduler.overlap, shutdownTimeout := c.scheduler.shutdownTimeout }
    cloud := c.cloud.cloud, settings := c.settings, processName := c.processName, origin
    period := Node.tickPeriod c.scheduler.tickMillis.toNat }

/-- The node with its tasks; its probe answers with `listing`. -/
def node (c : SidecarConfig) (listing : Listing) (origin : Int) : Except StartError Node := do
  let timer ← c.healthTimer.mapError .timer
  let duty : Duty := .health c.monitor { script := [listing] }
  let n ← ((c.bare origin).register c.monitor.name timer duty).mapError .scheduler
  match c.auditTimer? with
  | none => return n.report [.info "Ring audit disabled"]
  | some timer =>
    (n.register Membership.auditName (← timer.mapError .timer) .audit).mapError .scheduler

end SidecarConfig

end NodeSidecar
