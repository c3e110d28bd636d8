import LiveFlags.Options
import LiveFlags.Source.Backoff
import LiveFlags.Source.Event
import LiveFlags.Source.Turn

/-!
# Streaming

A streaming source keeps a stream open. A `put` brings the whole set of flags, a `patch` and a
`delete` one item, and after a `ping` the whole set is fetched. When the stream ends or fails in a
way that may pass, the source opens it again after a delay that grows with the failures in a row; a
`put` ends the row. Any other failure stops the source for good.
-/

namespace LiveFlags

/-- A source that follows a stream. -/
structure Streaming where
  context : SourceContext
  backoff : Backoff

namespace Streaming

def ofOptions (o : Options) (context : SourceContext) : Streaming :=
  { context, backoff := .new o.initialReconnectDelay o.maxReconnectDelay }

/-- The first turn, and the turn after a delay. -/
def start : Turn :=
  { await := .subscription }

/-- The turn after a failure; `draw` decides on the delay. -/
def onFailure (s : Streaming) (error : SourceError) (draw : Nat) : Turn × Streaming :=
  if error.isRecoverable then
    let (delay, backoff) := s.backoff.next draw
    ({ deliveries := [.interrupted error], await := .timer delay }, { s with backoff })
  else (.stop error, s)

/-- The turn after the answer to a subscription. -/
def onSubscribed (s : Streaming) (answer : Except SourceError Unit) (draw : Nat) :
    Turn × Streaming :=
  match answer with
  | .ok _ => ({ await := .event }, s)
  | .error e => s.onFailure e draw

/-- The turn after an event. -/
def onEvent (s : Streaming) (event : Except SourceError StreamEvent) (draw : Nat) :
    Turn × Streaming :=
  match event with
  | .ok (.put snapshot) =>
    (.ofSnapshot s.context snapshot .event, { s with backoff := s.backoff.reset })
  | .ok (.patch item) =>
    ({ deliveries := [.item s.context.identity item], await := .event }, s)
  | .ok (.delete key version) =>
    ({ deliveries := [.item s.context.identity (.tombstone key version)], await := .event }, s)
  | .ok .ping => ({ await := .fetch }, s)
  | .error e => s.onFailure e draw

/-- The turn after the answer to the fetch that a `ping` asked for. -/
def onFetch (s : Streaming) (answer : Except SourceError Snapshot) (draw : Nat) :
    Turn × Streaming :=
  match answer with
  | .ok snapshot => (.ofSnapshot s.context snapshot .event, s)
  | .error e => s.onFailure e draw

/-- The turn after the end of the stream. -/
def onEnd (s : Streaming) (draw : Nat) : Turn × Streaming :=
  s.onFailure (.network "stream closed by server") draw

end Streaming

end LiveFlags
