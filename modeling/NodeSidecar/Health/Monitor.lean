/-
**The health monitor.**

The monitor probes for the managed process and publishes whether it runs.  The process runs if the
listing has a line that is not blank; a probe that fails counts as a process that does not run.
A change of the published state is reported.

Main definitions:

* `HealthMonitor` — a task name and a pattern;
* `showsProcess` — whether a listing shows a process;
* `HealthMonitor.check` — the state after a listing, with the reports on the way;
* `HealthMonitor.execute` — the same as the execution of a task.
-/

import NodeSidecar.Health.Probe
import NodeSidecar.Log
import NodeSidecar.Text.Blank
import NodeSidecar.Timer

set_option autoImplicit false

namespace NodeSidecar

/-- Whether a listing has a line that is not blank. -/
def showsProcess (listing : String) : Bool :=
  (Text.lines listing).any fun line => !Text.allBlank line

theorem showsProcess_iff {listing : String} : showsProcess listing = true ↔ Text.Visible listing := by
  rw [← Text.exists_visible_line, showsProcess, List.any_eq_true]
  simp only [Bool.not_eq_true', ← Bool.not_eq_true, Text.allBlank_iff, Classical.not_not]

/-- The task that polls for the managed process. -/
structure HealthMonitor where
  name : String := "process-monitor"
  pattern : String
  deriving DecidableEq, Repr

namespace HealthMonitor

/-- What the monitor does, in words. -/
def description : String := "polls local process liveness"

/-- The period of the monitor when none is configured. -/
def defaultInterval : Duration := .ofSeconds 10

/-- The timer of the monitor when none is configured. -/
def defaultTimer : Except TimerError Timer := Timer.ofPeriod defaultInterval

/-- Whether the process runs by a listing, and the reports on publishing that in place of
`before`. -/
def check (listing : Listing) (before : Bool) : Bool × List LogLine :=
  let (running, failure) := match listing with
    | .ok output => (showsProcess output, [])
    | .error _ =>
      (false, [LogLine.warn "Process probe failed, marking process as not running"])
  let change :=
    if running = before then []
    else if running then [LogLine.info "Managed process is running"]
    else [LogLine.info "Managed process is not running"]
  (running, failure ++ change)

/-- An execution of the monitor after a listing: its result, the state and the reports. -/
def execute (listing : Listing) (before : Bool) : Except String Unit × Bool × List LogLine :=
  let (running, lines) := check listing before
  (.ok (), running, lines)

end HealthMonitor

end NodeSidecar
