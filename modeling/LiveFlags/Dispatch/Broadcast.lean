/-!
# Broadcast of events

Every receiver gets each event that is sent after it subscribed. Only the last `capacity` events
are kept, so a receiver that is slow learns how many it has missed and goes on with the oldest one
that is left.

Events are counted from zero over the whole life of a broadcast; a receiver is the number of the
event that it wants next.
-/

namespace LiveFlags

/-- The events that receivers can still get. -/
structure Broadcast (ε : Type) where
  capacity : Nat := 256
  /-- How many events are no longer kept. -/
  dropped : Nat := 0
  /-- The events that are kept, oldest first. -/
  kept : List ε := []

/-- What a receiver gets: an event, or the number of events that it has missed. -/
inductive Received (ε : Type) where
  | event (event : ε)
  | lagged (missed : Nat)
deriving DecidableEq, Repr

/-- A receiver: the number of the event that it wants next. -/
structure Receiver where
  next : Nat
deriving DecidableEq, Repr, Inhabited

namespace Broadcast

variable {ε : Type}

/-- The number of events sent so far. -/
def sent (b : Broadcast ε) : Nat :=
  b.dropped + b.kept.length

/-- Sends an event. The oldest one goes when there are too many. -/
def send (b : Broadcast ε) (event : ε) : Broadcast ε :=
  let kept := b.kept ++ [event]
  if b.capacity < kept.length then
    { b with dropped := b.dropped + 1, kept := kept.drop 1 }
  else { b with kept }

/-- A receiver of all events from now on. -/
def subscribe (b : Broadcast ε) : Receiver :=
  ⟨b.sent⟩

/-- All that a receiver can get now. -/
def receive (b : Broadcast ε) (r : Receiver) : List (Received ε) × Receiver :=
  let missed := b.dropped - r.next
  let rest := (b.kept.drop (r.next - b.dropped)).map .event
  (if missed = 0 then rest else .lagged missed :: rest, ⟨b.sent⟩)

end Broadcast

end LiveFlags
