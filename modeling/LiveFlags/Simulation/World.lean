import LiveFlags.Client
import LiveFlags.Simulation.Service
import LiveFlags.Source.Lifecycle
import LiveFlags.Source.Polling
import LiveFlags.Source.Streaming
import LiveFlags.Source.TestFlags
import LiveFlags.Storage.Memory
import LiveFlags.Storage.Monitored

/-!
# Clients in virtual time

A `World` holds several clients, their sources and the service that these talk to. All activities
are *tasks* that take turns: calls in progress, watchers of platform signals, starts and workers of
sources. A task that cannot go on waits until something wakes it.

The time stands still while some task can go on, and then jumps to the next timer. What the service
sends arrives piece by piece, each piece only when no task can go on.
-/

namespace LiveFlags.Simulation

/-- A task by its number. -/
abbrev TaskId := Nat

/-- How sources are built. -/
inductive Factory where
  /-- Sources of the flags for tests. -/
  | test
  /-- Sources that are driven by hand. -/
  | manual (name : String)
  /-- Sources that talk to the service. -/
  | service (options : Options)

/-- What a source is. -/
inductive SourceKind where
  | test
  | manual (factory : String)
  | polling (polling : Polling)
  | streaming (streaming : Streaming)

/-- Where the deliveries of a source go. -/
inductive Sink where
  | client (client generation : Nat)
  | record

/-- What a worker waits for. -/
inductive Pending where
  /-- Nothing, as long as the worker has not begun. -/
  | nothing
  | timer (due : Nat)
  /-- An answer that is on its way from the service, or will be from a given time on. -/
  | fetch (answer : Except SourceError Snapshot) (due : Option Nat)
  | subscription (answer : ScriptedConnection)
  | event

/-- A source that was built. -/
structure SourceRun where
  sink : Sink
  context : SourceContext
  kind : SourceKind
  life : Lifecycle := {}
  /-- Whether the source has data. -/
  loaded : Bool := false
  pending : Pending := .nothing
  /-- The stream that the worker reads. -/
  stream : Option Nat := none
  worker : Option TaskId := none
  /-- The tasks that wait for the outcome of the start. -/
  starters : List TaskId := []
  /-- The task that waits for the end of the worker. -/
  joiner : Option TaskId := none

/-- A call of a connection in progress. -/
inductive CallStage where
  | announce (call : ConnectionCall Factory) (reply : Reply)
  | enter (critical : Critical) (reply : Reply)
  /-- Waits for the end of the old source. -/
  | settle (plan : Plan) (source : Nat) (reply : Reply)
  /-- Waits for the outcome of the start. -/
  | wait (deadline : Nat)
  | finished (answer : Option Bool)

/-- A signal of the platform. -/
inductive Signal where
  | network
  | background
deriving DecidableEq, Repr

/-- The call that follows a signal. -/
def Signal.call (signal : Signal) (value : Bool) : ConnectionCall Factory :=
  match signal with
  | .network => .setNetworkEnabled value
  | .background => .setInBackground value

/-- An activity. -/
inductive Task where
  | call (client : Nat) (timeout : Duration) (stage : CallStage)
  /-- Follows a channel; `seen` is the number of the last value that it took. -/
  | watcher (client : Nat) (signal : Signal) (channel seen : Nat) (stage : CallStage)
  | start (source : Nat) (begun : Bool) (outcome : Option Bool)
  | worker (source : Nat)
  | dispose (source : Nat) (begun : Bool) (isDone : Bool)
  | ended

/-- A channel that keeps the latest value of a signal. -/
structure Channel where
  value : Bool
  /-- The number of values so far. -/
  version : Nat := 1
  isOpen : Bool := true
  watcher : TaskId

/-- A storage that several clients may share. -/
abbrev SharedStorage := Monitored MemoryStorage

/-- A client and what observes it. -/
structure ClientRun where
  connection : Connection SharedStorage Factory
  options : Options
  /-- Whether the storage is the shared one. -/
  shared : Bool
  /-- The task in the critical section. -/
  holder : Option TaskId := none
  /-- The tasks that wait for the critical section. -/
  queue : List TaskId := []
  watchers : List TaskId := []
  channels : List (Signal × Nat) := []
  /-- The starts that nobody waits for. -/
  spawned : List TaskId := []
  changes : Receiver
  statuses : Receiver
  /-- The status at the last look. -/
  seen : Status
  /-- Listeners by name: whether they listen to the status, and their number. -/
  listeners : List (String × Bool × Nat) := []

/-- Clients, sources, the service and the tasks. -/
structure World where
  /-- Milliseconds since the beginning. -/
  now : Nat := 0
  storage : SharedStorage := { storage := ∅ }
  clients : Array ClientRun := #[]
  sources : Array SourceRun := #[]
  tests : TestFlags Nat := {}
  service : ScriptedService := {}
  channels : Array Channel := #[]
  tasks : Array Task := #[]
  /-- The tasks that can go on, in order. -/
  ready : List TaskId := []
  /-- The workers for which something is on its way. -/
  arrivals : List TaskId := []
  timers : List (Nat × TaskId) := []
  /-- The deliveries of sources without a client, oldest first. -/
  recorded : List Delivery := []
  /-- The sources driven by hand, in the order of their construction. -/
  manuals : Array Nat := #[]
  /-- How many of them were there at the last look. -/
  manualsSeen : Nat := 0

/-- Something that happens in a world. -/
abbrev Sim := StateM World

namespace Sim

/-! ### Tasks -/

/-- Lets a task go on. -/
def wake (task : TaskId) : Sim Unit :=
  modify fun w => if w.ready.contains task then w else { w with ready := w.ready ++ [task] }

def task? (task : TaskId) : Sim (Option Task) :=
  return (← get).tasks[task]?

def setTask (task : TaskId) (state : Task) : Sim Unit :=
  modify fun w => { w with tasks := w.tasks.modify task fun _ => state }

/-- Makes a task that can go on at once. -/
def spawn (state : Task) : Sim TaskId := do
  let task := (← get).tasks.size
  modify fun w => { w with tasks := w.tasks.push state }
  wake task
  return task

/-- Wakes a task at a time. -/
def wakeAt (due : Nat) (task : TaskId) : Sim Unit :=
  modify fun w => { w with timers := w.timers ++ [(due, task)] }

/-- Wakes a worker when what it waits for has arrived. -/
def expect (task : TaskId) : Sim Unit :=
  modify fun w =>
    if w.arrivals.contains task then w else { w with arrivals := w.arrivals ++ [task] }

/-- Forgets what a task waits for. -/
def cancel (task : TaskId) : Sim Unit :=
  modify fun w => { w with
    arrivals := w.arrivals.filter (· != task)
    timers := w.timers.filter (·.2 != task) }

/-! ### Clients and sources -/

def client? (client : Nat) : Sim (Option ClientRun) :=
  return (← get).clients[client]?

def source? (source : Nat) : Sim (Option SourceRun) :=
  return (← get).sources[source]?

def modifyClient (client : Nat) (f : ClientRun → ClientRun) : Sim Unit :=
  modify fun w => { w with clients := w.clients.modify client f }

def modifySource (source : Nat) (f : SourceRun → SourceRun) : Sim Unit :=
  modify fun w => { w with sources := w.sources.modify source f }

def modifyService (f : ScriptedService → ScriptedService) : Sim Unit :=
  modify fun w => { w with service := f w.service }

/-- The connection of a client, with the shared storage in it if it shares. -/
def connection? (client : Nat) : Sim (Option (Connection SharedStorage Factory)) := do
  let w ← get
  return w.clients[client]?.map fun run =>
    if run.shared then
      { run.connection with
        data := { run.connection.data with
          cache := { run.connection.data.cache with storage := w.storage } } }
    else run.connection

/-- Whether a task waits for the outcome of the start of a client. -/
def awaitsStart (client : Nat) : Task → Bool
  | .call c _ (.wait _) => c == client
  | _ => false

/-- Changes the connection of a client. Those who wait for the outcome of its start wake when there
is one. -/
def withConnection {α : Type} (client : Nat)
    (f : Connection SharedStorage Factory → α × Connection SharedStorage Factory) :
    Sim (Option α) := do
  match ← connection? client with
  | none => return none
  | some before =>
    let (a, connection) := f before
    modify fun w => { w with
      storage :=
        if (w.clients[client]?.map (·.shared)).getD false then connection.data.cache.storage
        else w.storage
      clients := w.clients.modify client fun run => { run with connection } }
    if before.startOutcome ≠ connection.startOutcome && connection.startOutcome.isSome then
      let w ← get
      for task in [0:w.tasks.size] do
        if (w.tasks[task]?.map (awaitsStart client)).getD false then wake task
    return some a

/-- Changes the connection of a client. -/
def modifyConnection (client : Nat)
    (f : Connection SharedStorage Factory → Connection SharedStorage Factory) : Sim Unit := do
  let _ ← withConnection client fun c => ((), f c)

/-- The number of the source with a generation. -/
def sourceOf? (client generation : Nat) : Sim (Option Nat) := do
  let w ← get
  return w.sources.findIdx? fun s =>
    match s.sink with
    | .client c g => c == client && g == generation
    | .record => false

/-- A source delivers. -/
def deliver (source : Nat) (delivery : Delivery) : Sim Unit := do
  match ← source? source with
  | some { sink := .client client generation, .. } =>
    modifyConnection client fun c => c.deliver generation delivery
  | some { sink := .record, .. } =>
    modify fun w => { w with recorded := w.recorded ++ [delivery] }
  | none => return ()

/-- Decides the start of a source unless it is decided. -/
def resolve (source : Nat) (outcome : Bool) : Sim Unit := do
  match ← source? source with
  | none => return ()
  | some run =>
    modifySource source fun run => { run with life := run.life.resolve outcome, starters := [] }
    run.starters.forM wake

end Sim

end LiveFlags.Simulation
