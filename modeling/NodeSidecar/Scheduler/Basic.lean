/-
**Types of the scheduler.**

Main definitions:

* `OverlapPolicy` — what happens to a fire whose task is still running;
* `SchedulerState` — running, paused or stopped;
* `SchedulerError` — how a command fails, with its wording;
* `Outcome` — how a fire ends;
* `TaskStatus` — what is told about a task;
* `Command`, `Reply` — what is asked of the loop, and its answers.
-/

import NodeSidecar.Decode.Format
import NodeSidecar.Event
import NodeSidecar.Time.Rfc3339

set_option autoImplicit false

namespace NodeSidecar

/-- What happens to a fire whose task is still running. -/
inductive OverlapPolicy where
  /-- The fire is dropped. -/
  | skip
  /-- Both run at the same time. -/
  | allow
  deriving DecidableEq, Repr

namespace OverlapPolicy

/-- The policies by name. -/
def named : List (String × OverlapPolicy) := [("skip", skip), ("allow", allow)]

/-- The name of a policy. -/
def name : OverlapPolicy → String
  | skip => "skip"
  | allow => "allow"

/-- Decodes a policy. -/
def decode {δ : Type} (f : Decode.Format δ) (d : δ) : Decode.Decoded OverlapPolicy :=
  Decode.choice f named d

end OverlapPolicy

/-- Whether the scheduler dispatches fires. -/
inductive SchedulerState where
  | stopped
  | running
  | paused
  deriving DecidableEq, Repr

/-- The name of a state. -/
def SchedulerState.name : SchedulerState → String
  | .stopped => "stopped"
  | .running => "running"
  | .paused => "paused"

/-- How a command fails. -/
inductive SchedulerError where
  | taskNotFound (name : String)
  | duplicateTask (name : String)
  | alreadyRunning (name : String)
  | channelError (text : String)
  deriving DecidableEq, Repr

/-- The failure in words. -/
def SchedulerError.message : SchedulerError → String
  | .taskNotFound name => "task not found: " ++ name
  | .duplicateTask name => "task already registered: " ++ name
  | .alreadyRunning name => "task already running: " ++ name
  | .channelError text => "channel error: " ++ text

/-- How a fire ends. -/
inductive Outcome where
  | completed (duration : Duration)
  | failed (message : String)
  /-- The task panicked, with a message if it gave a text. -/
  | panicked (message? : Option String)
  deriving DecidableEq, Repr

/-- The event that ends a fire. -/
def Outcome.event (task : String) (id : FireId) : Outcome → Event
  | .completed duration => .completed task id duration
  | .failed message => .failed task id message
  | .panicked (some message) => .failed task id ("panicked: " ++ message)
  | .panicked none => .failed task id "panicked"

/-- The end of an execution that has taken some time. -/
def Outcome.ofResult (duration : Duration) : Except String Unit → Outcome
  | .ok () => .completed duration
  | .error message => .failed message

/-- What is told about a registered task. -/
structure TaskStatus where
  name : String
  timer : String
  nextFire : Option Instant
  inFlight : Nat
  deriving DecidableEq

/-- The JSON form of a status. -/
def TaskStatus.toJson (s : TaskStatus) : Json :=
  .object [("name", .str s.name), ("timer", .str s.timer),
    ("next_fire", .ofOption (fun i => .str i.rfc3339) s.nextFire),
    ("in_flight", .ofNat s.inFlight)]

/-- What is asked of the loop. -/
inductive Command where
  | trigger (task : String)
  | tasks
  | pause
  | resume
  | shutdown
  deriving DecidableEq, Repr

/-- A command in words. -/
def Command.verb : Command → String
  | .trigger _ => "trigger"
  | .tasks => "list tasks"
  | .pause => "pause"
  | .resume => "resume"
  | .shutdown => "shut down"

/-- The answer to a command. -/
inductive Reply where
  | fired (id : FireId)
  | statuses (tasks : List TaskStatus)
  | done
  | failed (error : SchedulerError)
  /-- The answer follows when the loop has ended. -/
  | pending
  deriving DecidableEq

end NodeSidecar
