/-
**Commands on their way to the loop.**

The handles of the scheduler share one queue of commands.  Each command carries with it the place
of its answer.  The queue holds a limited number of commands, and a handle that finds it full waits
until there is room.  The loop takes the commands from the queue one at a time, in the order in
which they came in, and answers each before it takes the next; while it shuts down it takes none.

When the loop has ended the queue is gone.  The commands that were in it lose the place of their
answers, and a handle that waits for room, or sends a command later, finds that there is no loop.

Main definitions:

* `Letter` — a command with the number of its answer;
* `Mailbox` — the loop with the commands under way, and the answers given;
* `Mailbox.ask`, `Mailbox.enter`, `Mailbox.take` — the way of a command;
* `Mailbox.settle` — what becomes of the commands under way when the loop has ended.
-/

import NodeSidecar.Scheduler.Loop

set_option autoImplicit false

namespace NodeSidecar

/-- A command with the number of its answer. -/
structure Letter where
  number : Nat
  command : Command
  deriving DecidableEq, Repr

namespace Letter

/-- The answer to a command that was in the queue when the loop ended. -/
def dropped (x : Letter) : Nat × Reply :=
  (x.number,
    .failed (.channelError ("scheduler loop dropped the " ++ x.command.verb ++ " reply")))

/-- The answer to a command for which there is no queue. -/
def refused (x : Letter) : Nat × Reply :=
  (x.number,
    .failed (.channelError ("scheduler loop has stopped, cannot " ++ x.command.verb)))

/-- The answer to the command that has ended the loop. -/
def done (x : Letter) : Nat × Reply := (x.number, .done)

end Letter

/-- **The loop with the commands under way**, in the order in which they were sent and came in, and
the answers given so far. -/
structure Mailbox where
  loop : Loop
  /-- The commands that wait for room in the queue. -/
  waiting : List Letter := []
  queue : List Letter := []
  /-- The command that the loop carries out while it shuts down. -/
  closing : Option Letter := none
  answers : List (Nat × Reply) := []
  /-- The number of commands sent so far. -/
  asked : Nat := 0

/-- A loop to which no command was sent. -/
def Loop.mailbox (l : Loop) : Mailbox := { loop := l }

namespace Mailbox

/-- The number of commands that the queue holds. -/
def capacity : Nat := 32

/-- **The end of the loop**: the command that it carried out is answered, those in the queue are
dropped, and those that wait for room are refused. -/
def settle (m : Mailbox) : Mailbox :=
  if m.loop.phase = .ended then
    { m with
      waiting := []
      queue := []
      closing := none
      answers := m.answers ++ m.closing.toList.map Letter.done ++ m.queue.map Letter.dropped ++
        m.waiting.map Letter.refused }
  else m

/-- A command is sent. -/
def ask (m : Mailbox) (c : Command) : Mailbox :=
  settle { m with waiting := m.waiting ++ [⟨m.asked, c⟩], asked := m.asked + 1 }

/-- The `i`-th of the commands that wait comes into the queue if there is room. -/
def enter (m : Mailbox) (i : Nat) : Mailbox :=
  match m.waiting[i]? with
  | some x =>
    if m.queue.length < capacity then
      { m with waiting := m.waiting.eraseIdx i, queue := m.queue ++ [x] }
    else m
  | none => m

/-- A command is answered, or carried out while the loop shuts down. -/
def answer (m : Mailbox) (x : Letter) : Reply → Mailbox
  | .pending => { m with closing := some x }
  | reply => { m with answers := m.answers ++ [(x.number, reply)] }

/-- A live loop takes the first command from the queue. -/
def take (m : Mailbox) (now : Duration) : Mailbox × List Effect :=
  match m.loop.phase, m.queue with
  | .live, x :: queue =>
    let (reply, loop, fx) := m.loop.command now x.command
    (settle (answer { m with loop, queue } x reply), fx)
  | _, _ => (m, [])

/-- The loop does something by itself. -/
def withLoop (m : Mailbox) (p : Loop × List Effect) : Mailbox × List Effect :=
  (settle { m with loop := p.1 }, p.2)

/-- A tick of the loop. -/
def tick (m : Mailbox) (now : Instant) : Mailbox × List Effect := m.withLoop (m.loop.tick now)

/-- The end of a fire. -/
def finish (m : Mailbox) (id : FireId) (outcome : Outcome) : Mailbox × List Effect :=
  m.withLoop (m.loop.finish id outcome)

/-- A look at the table of fires while shutting down. -/
def look (m : Mailbox) (now : Duration) : Mailbox × List Effect := m.withLoop (m.loop.look now)

end Mailbox

end NodeSidecar
