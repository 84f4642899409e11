/-
**Events of the scheduler, and the bus that carries them.**

Every fire, completion, failure and skipped fire is an event.  A bus has handlers in the order of
their registration.  To emit an event is to call the handlers one after another; an emission that
is under way keeps the handlers there were when it began, and registration waits for its end.

Main definitions:

* `Event`, `FireSource` — the events, and what caused a fire;
* `EventBus`, `EventBus.register` — the handlers of a bus;
* `Emission`, `EventBus.begin`, `Emission.next?` — an emission, handler by handler;
* `EventBus.emit` — all calls of one emission.
-/

import NodeSidecar.Scheduler.FireId
import NodeSidecar.Time.Duration

set_option autoImplicit false

namespace NodeSidecar

/-- What caused a fire. -/
inductive FireSource where
  /-- The timer of the task came due. -/
  | timer
  /-- The fire was asked for. -/
  | manual
  deriving DecidableEq, Repr

/-- Something that happened to a task. -/
inductive Event where
  | fired (task : String) (id : FireId) (source : FireSource)
  | completed (task : String) (id : FireId) (duration : Duration)
  | failed (task : String) (id : FireId) (error : String)
  | skipped (task : String)
  deriving DecidableEq, Repr

/-- The task that an event is about. -/
def Event.task : Event → String
  | .fired task _ _ | .completed task _ _ | .failed task _ _ | .skipped task => task

/-- Whether an event says that a fire was skipped. -/
def Event.isSkipped : Event → Bool
  | .skipped _ => true
  | _ => false

/-- The handlers of a bus, in order of registration. -/
structure EventBus (η : Type) where
  handlers : List η
  deriving Repr

/-- An emission under way: its event, and the handlers still to be called. -/
structure Emission (η : Type) where
  event : Event
  waiting : List η
  deriving Repr

/-- The next handler to be called, and what is left of the emission after it. -/
def Emission.next? {η : Type} (e : Emission η) : Option (η × Emission η) :=
  match e.waiting with
  | [] => none
  | h :: rest => some (h, { e with waiting := rest })

namespace EventBus

variable {η : Type}

/-- A bus without handlers. -/
def empty : EventBus η := ⟨[]⟩

/-- Adds a handler. -/
def register (b : EventBus η) (handler : η) : EventBus η := ⟨b.handlers ++ [handler]⟩

/-- The number of handlers. -/
def handlerCount (b : EventBus η) : Nat := b.handlers.length

/-- Begins an emission. -/
def begin (b : EventBus η) (event : Event) : Emission η := ⟨event, b.handlers⟩

/-- The calls made by an emission, in order. -/
def emit (b : EventBus η) (event : Event) : List (η × Event) := b.handlers.map fun h => (h, event)

end EventBus

end NodeSidecar
