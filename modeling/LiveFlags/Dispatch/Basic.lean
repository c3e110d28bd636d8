import LiveFlags.Dispatch.Broadcast

/-!
# Delivery of events to listeners

A `Dispatcher` queues events and delivers them one by one, in the order in which they came, to the
listeners that are registered at the time of the delivery, in the order of their registration. The
panic of a listener ends that one call and nothing else. The events also go out as a broadcast.

Registration hands out an id that is never used again; only the id removes a listener.
-/

namespace LiveFlags

/-- Somebody who is called for events. -/
structure Listener (ε : Type) where
  name : String
  /-- The events for which the listener acts. -/
  hears : ε → Bool := fun _ => true
  /-- The events on which the listener panics after acting. -/
  panics : ε → Bool := fun _ => false

/-- A call of a listener that acted. -/
structure Call (ε : Type) where
  id : Nat
  name : String
  event : ε
  panicked : Bool := false
deriving DecidableEq, Repr

/-- The call that a listener makes of an event. -/
def Listener.react {ε : Type} (l : Listener ε) (id : Nat) (event : ε) : Option (Call ε) :=
  if l.hears event then some { id, name := l.name, event, panicked := l.panics event } else none

/-- Listeners and the events that wait for them. -/
structure Dispatcher (ε : Type) where
  listeners : List (Nat × Listener ε) := []
  nextId : Nat := 1
  queue : List ε := []
  broadcast : Broadcast ε := {}

namespace Dispatcher

variable {ε : Type}

/-- Adds a listener after the others. -/
def register (d : Dispatcher ε) (listener : Listener ε) : Nat × Dispatcher ε :=
  (d.nextId, { d with listeners := d.listeners ++ [(d.nextId, listener)], nextId := d.nextId + 1 })

def isRegistered (d : Dispatcher ε) (id : Nat) : Bool :=
  d.listeners.any (·.1 == id)

/-- Removes the listener with an id, and tells whether there was one. -/
def unregister (d : Dispatcher ε) (id : Nat) : Bool × Dispatcher ε :=
  (d.isRegistered id, { d with listeners := d.listeners.filter (·.1 != id) })

def listenerCount (d : Dispatcher ε) : Nat :=
  d.listeners.length

/-- Queues an event and broadcasts it. -/
def dispatch (d : Dispatcher ε) (event : ε) : Dispatcher ε :=
  { d with queue := d.queue ++ [event], broadcast := d.broadcast.send event }

/-- Events that are dispatched one after the other wait in this order. -/
theorem foldl_dispatch (d : Dispatcher ε) (events : List ε) : events.foldl dispatch d =
    { d with
      queue := d.queue ++ events
      broadcast := events.foldl Broadcast.send d.broadcast } := by
  induction events generalizing d with
  | nil => simp
  | cons event events ih => simp [ih, dispatch]

/-- The calls that an event makes now. -/
def callsFor (d : Dispatcher ε) (event : ε) : List (Call ε) :=
  d.listeners.filterMap fun (id, listener) => listener.react id event

/-- Delivers the oldest event that waits. -/
def deliver (d : Dispatcher ε) : List (Call ε) × Dispatcher ε :=
  match d.queue with
  | [] => ([], d)
  | event :: queue => (d.callsFor event, { d with queue })

/-- Delivers all events that wait. -/
def drain (d : Dispatcher ε) : List (Call ε) × Dispatcher ε :=
  (d.queue.flatMap d.callsFor, { d with queue := [] })

end Dispatcher

end LiveFlags
