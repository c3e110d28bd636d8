import LiveFlags.Duration
import LiveFlags.Source.Delivery

/-!
# Turns of a worker

The worker of a source lives through a sequence of turns. In a turn it delivers what it has learnt,
may resolve the start of its source, and then waits for one thing. The next turn begins when that
has come. A start is resolved once; later outcomes do not count.
-/

namespace LiveFlags

/-- What a worker waits for. -/
inductive Await where
  | timer (delay : Duration)
  /-- The answer to a request for the whole set of flags. -/
  | fetch
  /-- The opening of a stream. -/
  | subscription
  /-- The next event of the open stream. -/
  | event
  /-- Nothing: the worker has stopped. -/
  | nothing
deriving DecidableEq, Repr

/-- What a worker does in one go. -/
structure Turn where
  deliveries : List Delivery := []
  /-- Whether the source has data now. -/
  loaded : Bool := false
  /-- The outcome of the start of the source. -/
  outcome : Option Bool := none
  await : Await

namespace Turn

/-- The turn of a worker that has the whole set of flags. -/
def ofSnapshot (context : SourceContext) (snapshot : Snapshot) (await : Await) : Turn where
  deliveries := [.snapshot context.identity snapshot, .valid]
  loaded := true
  outcome := some true
  await

/-- The last turn of a worker that cannot go on. -/
def stop (error : SourceError) : Turn where
  deliveries := [.failure error]
  outcome := some false
  await := .nothing

end Turn

end LiveFlags
