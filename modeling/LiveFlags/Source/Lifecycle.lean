/-!
# Start and disposal of a source with a worker

The first start of a source makes its worker, and every start waits for the outcome, which is
decided once. A disposal forbids further starts, decides a start that is still open, stops the
worker and waits for its end. Both consist of small steps, between which other starts and disposals
may take theirs: `StartStep` and `DisposeStep` say which step is next.
-/

namespace LiveFlags

/-- Where the worker of a source is. -/
inductive WorkerPhase where
  | absent
  | running
  /-- The worker has been told to stop and has not done so yet. -/
  | stopping
  | ended
deriving DecidableEq, Repr, Inhabited

/-- What starts and disposals of a source share. -/
structure Lifecycle where
  /-- Whether some start has claimed to make the worker, or a disposal forbids it. -/
  claimed : Bool := false
  /-- The outcome of the start. -/
  outcome : Option Bool := none
  /-- Whether the means to stop the worker can be taken. -/
  stopper : Bool := false
  /-- Whether the means to wait for the end of the worker can be taken. -/
  handle : Bool := false
  worker : WorkerPhase := .absent
  /-- Whether the worker finds that it is to stop when it is made. -/
  told : Bool := false
  /-- How many workers were ever made. -/
  spawned : Nat := 0
deriving DecidableEq, Repr, Inhabited

/-- The next step of a start. -/
inductive StartStep where
  | claim
  | publishStopper
  | spawn
  | publishHandle
  /-- Waits for the outcome. -/
  | wait
deriving DecidableEq, Repr

/-- The next step of a disposal. -/
inductive DisposeStep where
  | forbid
  | resolve
  | stop
  | takeHandle
  /-- Waits for the end of the worker. -/
  | join
  | done
deriving DecidableEq, Repr

namespace Lifecycle

/-- Decides the start unless it is decided. -/
def resolve (l : Lifecycle) (outcome : Bool) : Lifecycle :=
  { l with outcome := l.outcome.or (some outcome) }

/-- Whether the worker may still act. -/
def isAlive (l : Lifecycle) : Bool :=
  l.worker = .running || l.worker = .stopping

/-- Takes a step of a start. -/
def stepStart (l : Lifecycle) : StartStep → StartStep × Lifecycle
  | .claim => (if l.claimed then .wait else .publishStopper, { l with claimed := true })
  | .publishStopper => (.spawn, { l with stopper := true })
  | .spawn =>
    (.publishHandle,
      { l with worker := if l.told then .stopping else .running, spawned := l.spawned + 1 })
  | .publishHandle => (.wait, { l with handle := true })
  | .wait => (.wait, l)

/-- Tells the worker to stop, now or once it is made. -/
def tell (l : Lifecycle) : Lifecycle :=
  match l.worker with
  | .absent => { l with told := true }
  | .running => { l with worker := .stopping }
  | .stopping | .ended => l

/-- Takes a step of a disposal. Waiting takes no step while the worker is alive. -/
def stepDispose (l : Lifecycle) : DisposeStep → DisposeStep × Lifecycle
  | .forbid => (.resolve, { l with claimed := true })
  | .resolve => (.stop, l.resolve false)
  | .stop =>
    (.takeHandle, if l.stopper then { l with stopper := false }.tell else l)
  | .takeHandle => (if l.handle then .join else .done, { l with handle := false })
  | .join => (if l.isAlive then .join else .done, l)
  | .done => (.done, l)

/-- The worker ends, of itself or because it was told to. -/
def finish (l : Lifecycle) : Lifecycle :=
  { l with worker := .ended }

/-- All steps of a start up to the wait, without any in between. -/
def start (l : Lifecycle) : Lifecycle :=
  let (s, l) := l.stepStart .claim
  let (s, l) := l.stepStart s
  let (s, l) := l.stepStart s
  (l.stepStart s).2

/-- All steps of a disposal up to the wait, without any in between, and whether there is a worker to
wait for. -/
def dispose (l : Lifecycle) : Bool × Lifecycle :=
  let (s, l) := l.stepDispose .forbid
  let (s, l) := l.stepDispose s
  let (s, l) := l.stepDispose s
  let (s, l) := l.stepDispose s
  (s = .join && l.isAlive, l)

end Lifecycle

end LiveFlags
