import LiveFlags.Duration
import LiveFlags.Identity
import LiveFlags.Source.Event

/-!
# A scripted service

`ScriptedService` answers requests from two queues, one of fetches and one of streams. A stream
brings its events one by one and then ends or stays open; further events can be pushed into the
stream that was opened last, as long as it is open. With empty queues a fetch fails and a stream
stays silent.
-/

namespace LiveFlags.Simulation

/-- The answer to a fetch, after a delay. -/
structure ScriptedFetch where
  answer : Except SourceError Snapshot
  delay : Duration := .zero

/-- What a stream brings. -/
inductive ScriptedEvent where
  | message (name data : String)
  | failure (error : SourceError)

/-- What a worker reads of an event; nothing for one that has no meaning. -/
def ScriptedEvent.read : ScriptedEvent → Except SourceError (Option StreamEvent)
  | .message name data => StreamEvent.parse name data
  | .failure error => .error error

/-- The answer to a subscription. -/
inductive ScriptedConnection where
  | refuse (error : SourceError)
  | accept (events : List ScriptedEvent) (closes : Bool)

/-- A stream that was opened. -/
structure ScriptedStream where
  /-- The events that were not read yet. -/
  events : List ScriptedEvent
  /-- Whether no more events will come. -/
  ended : Bool
  /-- Whether somebody still reads. -/
  heard : Bool := true

/-- What the reader of a stream finds. -/
inductive StreamNews where
  | event (event : ScriptedEvent)
  | ended
  | silence

/-- A service with scripted answers. -/
structure ScriptedService where
  fetches : List ScriptedFetch := []
  connections : List ScriptedConnection := []
  fetchCalls : Nat := 0
  subscribeCalls : Nat := 0
  /-- The identity that was last asked for. -/
  lastAsked : String := ""
  /-- All streams in the order of their opening. -/
  streams : Array ScriptedStream := #[]
  /-- The stream that takes further events. -/
  latest : Option Nat := none

namespace ScriptedService

/-- Takes a request for the whole set of flags. -/
def fetch (s : ScriptedService) (identity : Identity) : ScriptedFetch × ScriptedService :=
  let s := { s with fetchCalls := s.fetchCalls + 1, lastAsked := identity.cacheKey }
  match s.fetches with
  | next :: fetches => (next, { s with fetches })
  | [] => ({ answer := .error (.network "no scripted response") }, s)

/-- Takes a subscription. -/
def subscribe (s : ScriptedService) (identity : Identity) :
    ScriptedConnection × ScriptedService :=
  let s := { s with subscribeCalls := s.subscribeCalls + 1, lastAsked := identity.cacheKey }
  match s.connections with
  | next :: connections => (next, { s with connections })
  | [] => (.accept [] false, s)

/-- Opens a stream. -/
def openStream (s : ScriptedService) (events : List ScriptedEvent) (closes : Bool) :
    Nat × ScriptedService :=
  let stream := s.streams.size
  (stream, { s with
    streams := s.streams.push { events, ended := closes }
    latest := if closes then s.latest else some stream })

/-- What is next in a stream. -/
def news (s : ScriptedService) (stream : Nat) : StreamNews :=
  match s.streams[stream]? with
  | none => .silence
  | some { events := event :: _, .. } => .event event
  | some { events := [], ended, .. } => if ended then .ended else .silence

/-- Passes over the next event of a stream. -/
def advance (s : ScriptedService) (stream : Nat) : ScriptedService :=
  { s with streams := s.streams.modify stream fun t => { t with events := t.events.drop 1 } }

/-- Stops reading a stream. -/
def leave (s : ScriptedService) (stream : Nat) : ScriptedService :=
  { s with streams := s.streams.modify stream fun t => { t with heard := false } }

/-- Whether somebody reads the stream that takes further events. -/
def isHeard (s : ScriptedService) : Bool :=
  match s.latest.bind (s.streams[·]?) with
  | some stream => stream.heard
  | none => false

/-- Brings a further event. -/
def push (s : ScriptedService) (event : ScriptedEvent) : ScriptedService :=
  match s.latest with
  | some stream =>
    { s with streams := s.streams.modify stream fun t => { t with events := t.events ++ [event] } }
  | none => s

/-- Ends the stream that takes further events. -/
def close (s : ScriptedService) : ScriptedService :=
  match s.latest with
  | some stream =>
    { s with
      streams := s.streams.modify stream fun t => { t with ended := true }
      latest := none }
  | none => s

end ScriptedService

end LiveFlags.Simulation
