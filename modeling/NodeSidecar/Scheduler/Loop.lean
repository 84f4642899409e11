/-
**The loop of the scheduler.**

One loop dispatches the fires of all tasks.  Its ticks find the tasks that are due, move their
timers past the tick, dispatch each due task once while the scheduler is running, and then drop
the finished fires from the table of fires.  Between ticks it answers commands, one at a time; the
ends of fires come in at any time.

Shutting down stops all dispatching.  The loop then looks at the table of fires, at once and again
and again, until no fire is left or the timeout has passed; only then is the command answered.
Commands that come in meanwhile or later find no loop to answer them.

Everything that happens is given out as a list of effects, events and reports, in order.

Main definitions:

* `Loop`, `Registration`, `Fire`, `Phase` — the state of the loop;
* `Loop.tick` — a tick at a reading of the wall clock;
* `Loop.command` — a command at a reading of the monotonic clock;
* `Loop.finish` — the end of a fire;
* `Loop.look` — a look at the table while shutting down;
* `catchUp` — the instant of a timer after a given one that lies ahead of the clock.
-/

import NodeSidecar.Log
import NodeSidecar.Scheduler.Basic
import NodeSidecar.Timer

set_option autoImplicit false

namespace NodeSidecar

/-- A task's name, its timer, and when it fires next. -/
structure Registration where
  name : String
  timer : Timer
  nextFire : Option Instant

/-- An entry of the table of fires. -/
structure Fire where
  id : FireId
  task : String
  finished : Bool
  deriving DecidableEq, Repr

/-- What the loop is at. -/
inductive Phase where
  | live
  /-- Shutting down since `start`, until `deadline` at the latest. -/
  | draining (start deadline : Duration)
  | ended
  deriving DecidableEq, Repr

/-- The state of the loop; registrations are in order of their names. -/
structure Loop where
  registrations : List Registration := []
  overlap : OverlapPolicy := .skip
  shutdownTimeout : Duration := .ofSeconds 30
  state : SchedulerState := .running
  fires : List Fire := []
  nextId : Nat := 1
  phase : Phase := .live

/-- Something that the loop gives out. -/
inductive Effect where
  | event (e : Event)
  | report (line : LogLine)
  deriving DecidableEq, Repr

/-- The events among effects. -/
def Effect.events (fx : List Effect) : List Event :=
  fx.filterMap fun
    | .event e => some e
    | .report _ => none

/-- The reports among effects. -/
def Effect.reports (fx : List Effect) : List LogLine :=
  fx.filterMap fun
    | .report line => some line
    | .event _ => none

/-! ### Registration -/

/-- Adds a registration in the order of names. -/
def insertRegistration (r : Registration) : List Registration → List Registration
  | [] => [r]
  | s :: rest => if r.name < s.name then r :: s :: rest else s :: insertRegistration r rest

namespace Loop

/-- The registration of a name. -/
def registration? (l : Loop) (name : String) : Option Registration :=
  l.registrations.find? fun r => r.name == name

/-- Registers a task. -/
def register (l : Loop) (name : String) (timer : Timer) : Except SchedulerError Loop :=
  if (l.registration? name).isSome then .error (.duplicateTask name)
  else .ok { l with registrations := insertRegistration ⟨name, timer, none⟩ l.registrations }

/-- The names of the tasks, in order. -/
def taskNames (l : Loop) : List String := l.registrations.map Registration.name

/-- Starts all timers. -/
def start (l : Loop) (now : Instant) : Except Cron.Breakdown Loop := do
  let registrations ← l.registrations.mapM fun r => do
    return { r with nextFire := ← r.timer.firstFire now }
  return { l with registrations }

end Loop

/-! ### Due tasks -/

/-- The first instant from `at?` on, along the timer, that lies after `now`, and how many were
passed over.  An instant of a timer is followed by a later one; the last case never arises.

The count is unbounded here and a tick drops it, as in a build without overflow checks, in which a
counter that runs over stops nothing.  `Timer.missed_fires_fit_iff` says when 32 bits are enough. -/
def catchUp (t : Timer) (now : Instant) (at? : Option Instant) (missed : Nat) :
    Except Cron.Breakdown (Option Instant × Nat) :=
  match at? with
  | none => .ok (none, missed)
  | some i =>
    if now < i then .ok (some i, missed)
    else
      match t.nextAfter i with
      | .error b => .error b
      | .ok none => .ok (none, missed + 1)
      | .ok (some j) =>
        if i < j then catchUp t now (some j) (missed + 1) else .ok (some j, missed + 1)
termination_by
  match at? with
  | none => 0
  | some i => (now.nanos - i.nanos + 1).toNat
decreasing_by
  simp only [Instant.lt_iff] at *
  omega

/-- The registrations moved past `now`, and the names of those that were due. -/
def advanceDue (now : Instant) :
    List Registration → Except Cron.Breakdown (List String × List Registration)
  | [] => .ok ([], [])
  | r :: rs => do
    let due := match r.nextFire with
      | some scheduled => if scheduled ≤ now then some scheduled else none
      | none => none
    match due with
    | none =>
      let (names, rs) ← advanceDue now rs
      return (names, r :: rs)
    | some scheduled =>
      let (next, _) ← catchUp r.timer now (← r.timer.nextAfter scheduled) 0
      let (names, rs) ← advanceDue now rs
      return (r.name :: names, { r with nextFire := next } :: rs)

namespace Loop

/-! ### Dispatching -/

/-- The number of unfinished fires of a task. -/
def inFlight (l : Loop) (name : String) : Nat :=
  l.fires.countP fun f => f.task == name && !f.finished

/-- What is told about the tasks. -/
def statuses (l : Loop) : List TaskStatus :=
  l.registrations.map fun r => ⟨r.name, r.timer.text, r.nextFire, l.inFlight r.name⟩

/-- Dispatches a fire, unless the task is unknown or must not overlap with itself. -/
def dispatch (l : Loop) (name : String) (source : FireSource) :
    Except SchedulerError FireId × Loop × List Effect :=
  if (l.registration? name).isNone then (.error (.taskNotFound name), l, [])
  else if l.overlap = .skip ∧ 0 < l.inFlight name then
    (.error (.alreadyRunning name), l,
      if source = .timer then
        [.report (.warn "Previous fire still running, skipping"), .event (.skipped name)]
      else [])
  else
    let id : FireId := ⟨l.nextId⟩
    (.ok id, { l with fires := l.fires ++ [⟨id, name, false⟩], nextId := l.nextId + 1 },
      [.event (.fired name id source)])

/-- Dispatches the fires of due tasks, one after another. -/
def dispatchDue (l : Loop) : List String → Loop × List Effect
  | [] => (l, [])
  | name :: names =>
    let (_, l, fx) := l.dispatch name .timer
    let (l, more) := l.dispatchDue names
    (l, fx ++ more)

/-- Drops the finished fires from the table. -/
def cleanUp (l : Loop) : Loop := { l with fires := l.fires.filter fun f => !f.finished }

/-- A tick at the time `now`.  The loop ends if a timer breaks down, and for no other reason: how
many instants were passed over is dropped (see `catchUp`). -/
def tick (l : Loop) (now : Instant) : Loop × List Effect :=
  if l.phase ≠ .live then (l, [])
  else
    match advanceDue now l.registrations with
    | .error _ => ({ l with phase := .ended }, [])
    | .ok (due, registrations) =>
      let l := { l with registrations }
      if l.state = .running then
        let (l, fx) := l.dispatchDue due
        (l.cleanUp, fx)
      else (l.cleanUp, [])

/-! ### Ends of fires -/

/-- Marks a fire of the table as finished. -/
def markFinished (l : Loop) (id : FireId) : Loop :=
  { l with fires := l.fires.map fun f => if f.id = id then { f with finished := true } else f }

/-- The report on the end of a fire, if there is one. -/
def endReport : Outcome → List Effect
  | .completed _ => []
  | .failed _ => [.report (.warn "Task failed")]
  | .panicked _ => [.report (.warn "Task aborted")]

/-- The end of a fire that has not ended before.

The event that tells of the end and the end itself are one step here.  The handlers of the event run
in between, so that to what they ask of the scheduler meanwhile the fire is unfinished still. -/
def finish (l : Loop) (id : FireId) (outcome : Outcome) : Loop × List Effect :=
  match l.fires.find? fun f => f.id == id && !f.finished with
  | none => (l, [])
  | some f => (l.markFinished id, endReport outcome ++ [.event (outcome.event f.task id)])

/-! ### Shutting down -/

/-- The latest second that the monotonic clock can show. -/
def lastSecond : Nat := UInt64.size / 2 - 1

/-- The reading of the clock after a length of time, if it can be shown. -/
def deadline? (start timeout : Duration) : Option Duration :=
  let sum : Duration := ⟨start.nanos + timeout.nanos⟩
  if sum.seconds ≤ lastSecond then some sum else none

/-- A look at the table of fires while shutting down. -/
def look (l : Loop) (now : Duration) : Loop × List Effect :=
  match l.phase with
  | .draining start deadline =>
    let l := l.cleanUp
    if l.fires.isEmpty then
      ({ l with phase := .ended }, [.report (.info ("All running fires completed gracefully in " ++
        (Duration.mk (now.nanos - start.nanos)).text))])
    else if deadline.nanos ≤ now.nanos then
      ({ l with phase := .ended }, [.report (.warn ("Graceful shutdown timeout (" ++
        l.shutdownTimeout.text ++ ") exceeded with " ++ toString l.fires.length ++
        " fire(s) still running"))])
    else (l, [])
  | _ => (l, [])

/-- Begins to shut down.  Finished fires that are still in the table count as running until the
first look. -/
def shutDown (l : Loop) (now : Duration) : Reply × Loop × List Effect :=
  let l := { l with state := .stopped }
  if l.fires.isEmpty then
    (.done, { l with phase := .ended },
      [.report (.info "No running tasks to wait for during shutdown")])
  else
    let waiting : Effect := .report (.info ("Graceful shutdown: waiting for " ++
      toString l.fires.length ++ " running fire(s) to complete (timeout: " ++
      l.shutdownTimeout.text ++ ")"))
    match deadline? now l.shutdownTimeout with
    | none =>
      (.failed (.channelError "scheduler loop dropped the shut down reply"),
        { l with phase := .ended }, [waiting])
    | some deadline =>
      let (l, fx) := look { l with phase := .draining now deadline } now
      (if l.phase = .ended then .done else .pending, l, waiting :: fx)

/-- A command at the time `now` of the monotonic clock. -/
def command (l : Loop) (now : Duration) (c : Command) : Reply × Loop × List Effect :=
  match l.phase with
  | .ended =>
    (.failed (.channelError ("scheduler loop has stopped, cannot " ++ c.verb)), l, [])
  | .draining _ _ =>
    (.failed (.channelError ("scheduler loop dropped the " ++ c.verb ++ " reply")), l, [])
  | .live =>
    match c with
    | .trigger task =>
      let (r, l, fx) := l.dispatch task .manual
      (match r with
        | .ok id => .fired id
        | .error e => .failed e, l, fx)
    | .tasks => (.statuses l.statuses, l, [])
    | .pause => (.done, { l with state := .paused }, [.report (.info "Scheduler paused")])
    | .resume => (.done, { l with state := .running }, [.report (.info "Scheduler resumed")])
    | .shutdown => l.shutDown now

end Loop

end NodeSidecar
