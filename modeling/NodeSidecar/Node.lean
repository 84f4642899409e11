/-
**A node on a clock of its own.**

A node has a scheduler with its duties, a provider, the published health of the managed process,
and a clock.  Time stands still while anything can happen, and then moves to the next thing that
will: a tick of the scheduler, or the end of a fire that takes its time.  All that can happen at
one moment happens in order: first a tick with its dispatches, then the dispatched fires, one
after another.

Two clocks are read.  The monotonic clock shows the milliseconds since the start; the wall clock
shows the start plus these, and can be put forward and back.

Main definitions:

* `Duty` — what a task does when it fires;
* `Node` — the state of a node;
* `Node.register` — a node with one more task;
* `Node.boot` — a node whose scheduler has just started;
* `Node.pass` — lets time pass;
* `Node.command` — gives the scheduler a command and waits for its answer.
-/

import NodeSidecar.Health.Monitor
import NodeSidecar.Membership.Audit
import NodeSidecar.Scheduler.Mailbox

set_option autoImplicit false

namespace NodeSidecar

/-- How a counting task ends. -/
inductive CountingEnd where
  | succeeds
  | fails (message : String)
  | panics
  deriving DecidableEq, Repr

/-- A task that counts its fires and may take its time. -/
structure Counting where
  delay : Nat
  ending : CountingEnd
  calls : Nat := 0
  running : Nat := 0
  maxRunning : Nat := 0
  deriving DecidableEq, Repr

/-- What a task does when it fires. -/
inductive Duty where
  | counting (c : Counting)
  /-- Fails with a message. -/
  | failing (message : String)
  /-- Panics, with a message if it gives a text. -/
  | panicking (message? : Option String)
  | health (monitor : HealthMonitor) (probe : ScriptedProbe)
  | audit

/-- A fire that ends later. -/
structure Pending where
  due : Nat
  id : FireId
  task : String
  begun : Nat
  deriving DecidableEq, Repr

/-- A node with its clock; events and reports are kept since they were last taken. -/
structure Node where
  loop : Loop
  duties : List (String × Duty) := []
  cloud : Cloud
  settings : MembershipSettings
  processName : String
  healthy : Bool := false
  /-- What the wall clock shows at the start, with all adjustments since, in nanoseconds. -/
  origin : Int
  /-- The milliseconds since the start. -/
  elapsed : Nat := 0
  /-- The milliseconds between ticks. -/
  period : Nat
  nextTick : Nat := 0
  pending : List Pending := []
  events : List (Nat × Event) := []
  log : List LogLine := []

namespace Node

/-- What the wall clock shows, as far as that is an instant. -/
def wallClock (n : Node) : Option Instant := Instant.ofNanos? (n.origin + n.elapsed * 1000000)

/-- What the monotonic clock shows. -/
def clock (n : Node) : Duration := .ofMillis n.elapsed

/-- Keeps reports. -/
def report (n : Node) (lines : List LogLine) : Node := { n with log := n.log ++ lines }

/-- The milliseconds between ticks, which are one at least. -/
def tickPeriod (ms : Nat) : Nat := max 1 ms

/-- Registers a task with what it does. -/
def register (n : Node) (name : String) (timer : Timer) (duty : Duty) :
    Except SchedulerError Node := do
  let loop ← n.loop.register name timer
  return { n with loop, duties := n.duties ++ [(name, duty)] }.report [.info "Registered task"]

/-- Keeps the effects of the loop. -/
def keep (n : Node) (loop : Loop) (fx : List Effect) : Node :=
  { n with
    loop
    events := n.events ++ (Effect.events fx).map fun e => (n.elapsed, e)
    log := n.log ++ Effect.reports fx }

/-- Replaces the duty of a task. -/
def setDuty (n : Node) (task : String) (duty : Duty) : Node :=
  { n with duties := n.duties.map fun d => if d.1 = task then (task, duty) else d }

/-- Moves the reports of the provider to those of the node. -/
def takeCloudLog (n : Node) (cloud : Cloud) : Node :=
  { n with cloud := { cloud with log := [] }, log := n.log ++ cloud.log }

/-! ### Fires -/

/-- Ends a fire. -/
def finish (n : Node) (id : FireId) (outcome : Outcome) : Node :=
  let (loop, fx) := n.loop.finish id outcome
  n.keep loop fx

/-- How a counting task ends. -/
def Counting.outcome (task : String) (took : Nat) (c : Counting) : Outcome :=
  match c.ending with
  | .succeeds => .completed (.ofMillis took)
  | .fails message => .failed ("execution failed: " ++ message)
  | .panics => .panicked (some ("task '" ++ task ++ "' panicked"))

/-- Ends the fire of a counting task. -/
def finishCounting (n : Node) (id : FireId) (task : String) (took : Nat) (c : Counting) : Node :=
  (n.setDuty task (.counting { c with running := c.running - 1 })).finish id
    (Counting.outcome task took c)

/-- Begins a fire that has been dispatched; unless it takes time, it ends at once. -/
def beginFire (n : Node) (task : String) (id : FireId) : Node :=
  let done : Outcome := .completed (.ofMillis 0)
  match n.duties.lookup task with
  | none => n
  | some (.counting c) =>
    let running := c.running + 1
    let c := { c with calls := c.calls + 1, running, maxRunning := max c.maxRunning running }
    let n := n.setDuty task (.counting c)
    if c.delay = 0 then n.finishCounting id task 0 c
    else { n with pending := n.pending ++ [⟨n.elapsed + c.delay, id, task, n.elapsed⟩] }
  | some (.failing message) => n.finish id (.failed message)
  | some (.panicking message?) => n.finish id (.panicked message?)
  | some (.health monitor probe) =>
    let (listing, probe) := probe.list monitor.pattern
    let (result, healthy, lines) := HealthMonitor.execute listing n.healthy
    let n := (n.setDuty task (.health monitor probe)).report lines
    finish { n with healthy := healthy } id (.ofResult (.ofMillis 0) result)
  | some .audit =>
    let (_, cloud) := Membership.audit n.settings n.cloud
    (n.takeCloudLog cloud).finish id done

/-- Begins the fires that the loop has dispatched. -/
def beginFires (n : Node) (fx : List Effect) : Node :=
  (Effect.events fx).foldl (fun n e =>
    match e with
    | .fired task id _ => n.beginFire task id
    | _ => n) n

/-- Ends a fire that has taken its time. -/
def finishPending (n : Node) (p : Pending) : Node :=
  match n.duties.lookup p.task with
  | some (.counting c) => n.finishCounting p.id p.task (p.due - p.begun) c
  | _ => n

/-- Ends the fires that end now, in the order in which they were dispatched. -/
def finishDue (n : Node) : Node :=
  let due := n.pending.filter fun p => p.due == n.elapsed
  let n := { n with pending := n.pending.filter fun p => p.due != n.elapsed }
  due.foldl finishPending n

/-! ### Time -/

/-- A tick of the scheduler. -/
def tick (n : Node) : Node :=
  let n := { n with nextTick := n.elapsed + n.period }
  match n.wallClock with
  | none => n
  | some now =>
    let (loop, fx) := n.loop.tick now
    (n.keep loop fx).beginFires fx

/-- Whether the scheduler ticks. -/
def ticking (n : Node) : Bool := n.loop.phase = .live

/-- The next moment, after now and up to `limit`, at which something happens. -/
def nextMoment (n : Node) (limit : Nat) : Nat :=
  let ends := (n.pending.map Pending.due).foldl min limit
  max (n.elapsed + 1) (if n.ticking then min n.nextTick ends else ends)

/-- All that happens at this moment. -/
def happen (n : Node) : Node :=
  let n := n.finishDue
  if n.ticking && n.nextTick == n.elapsed then n.tick else n

/-- Lets time pass up to `limit`; every move of the clock takes a millisecond at least, so `fuel`
milliseconds need no more moves. -/
def passFrom (limit : Nat) : Nat → Node → Node
  | 0, n => n
  | fuel + 1, n =>
    if limit ≤ n.elapsed then n
    else passFrom limit fuel (happen { n with elapsed := min limit (n.nextMoment limit) })

/-- Lets `ms` milliseconds pass. -/
def pass (n : Node) (ms : Nat) : Node := passFrom (n.elapsed + ms) ms n

/-- Puts the wall clock forward or back. -/
def adjustClock (n : Node) (ms : Int) : Node := { n with origin := n.origin + ms * 1000000 }

/-! ### Commands -/

/-- The milliseconds between two looks at the table of fires. -/
def lookPeriod : Nat := 100

/-- Waits until the loop has ended. -/
def drain : Nat → Mailbox → Node → Mailbox × Node
  | 0, m, n => (m, n)
  | fuel + 1, m, n =>
    match n.loop.phase with
    | .draining _ _ =>
      let n := n.pass lookPeriod
      let (m, fx) := { m with loop := n.loop }.look n.clock
      drain fuel m (n.keep m.loop fx)
    | _ => (m, n)

/-- The number of looks by which the time for shutting down is up. -/
def looks (n : Node) : Nat :=
  match n.loop.phase with
  | .draining _ deadline => (deadline.nanos - n.clock.nanos) / (lookPeriod * 1000000) + 1
  | _ => 0

/-- Sends the scheduler a command, the only one under way, and lets happen what follows at once. -/
def send (n : Node) (c : Command) : Mailbox × Node :=
  let (m, fx) := ((n.loop.mailbox.ask c).enter 0).take n.clock
  (m, (n.keep m.loop fx).beginFires fx)

/-- Gives the scheduler a command and waits for its answer. -/
def command (n : Node) (c : Command) : Reply × Node :=
  let (m, n) := n.send c
  let (m, n) := drain n.looks m n
  ((m.answers.lookup 0).getD .pending, n)

/-- Starts the scheduler of a node and lets its first millisecond pass. -/
def boot (n : Node) : Except Cron.Breakdown Node := do
  match n.wallClock with
  | none => return n
  | some now =>
    let loop ← n.loop.start now
    return ((n.keep loop []).report [.info "Scheduler started"]).tick.pass 1

/-- Runs an operation on the ring. -/
def operate {α : Type} (n : Node) (op : Operation α) : Except MembershipError α × Node :=
  let (r, cloud) := op.run n.cloud
  (r, n.takeCloudLog cloud)

/-- The events and reports kept so far, and the node without them. -/
def take (n : Node) : List (Nat × Event) × List LogLine × Node :=
  (n.events, n.log, { n with events := [], log := [] })

end Node

end NodeSidecar
