import LiveFlags.Simulation.Call

/-!
# Driving clients in virtual time

What is done to the clients of a world from outside, and what shows when one looks. A call takes as
much virtual time as it needs; everything else happens at once, and its consequences when time
passes.
-/

namespace LiveFlags.Simulation

/-- What was seen of a client since the last look. -/
structure ClientView where
  run : ClientRun
  /-- The status at the last look. -/
  before : Status
  changes : List (Received Change)
  statuses : List (Received Status)
  changeCalls : List (Call Change)
  statusCalls : List (Call Status)

namespace Sim

/-! ### Clients -/

/-- Adds a client, if its options pass their check. -/
def addClient (options : Options) (identity : Identity) (factory : Factory)
    (shared checked : Bool) : Sim (Except OptionsFault Unit) := do
  match if checked then options.check else .ok () with
  | .error fault => return .error fault
  | .ok _ =>
    let w ← get
    let storage : SharedStorage := if shared then w.storage else { storage := ∅ }
    let connection := Connection.mount options identity storage factory
    set { w with
      storage := if shared then connection.data.cache.storage else w.storage
      clients := w.clients.push {
        connection, options, shared
        changes := connection.data.notifier.broadcast.subscribe
        statuses := connection.status.dispatcher.broadcast.subscribe
        seen := connection.status.current } }
    return .ok ()

/-- Makes a call of a connection and waits for its answer. -/
def callConnection (client : Nat) (call : ConnectionCall Factory) (reply : Reply)
    (timeout : Duration) : Sim (Option Bool) := do
  let task ← spawn (.call client timeout (.announce call reply))
  runTask task
  match ← task? task with
  | some (.call _ _ (.finished answer)) => return answer
  | _ => return none

/-- Makes a call of a client and waits for its answer. -/
def callClient (client : Nat) (call : ClientCall) (timeout : Duration) : Sim (Option Bool) := do
  match call with
  | .switchIdentity identity =>
    let _ ← withConnection client (·.switchData identity)
  | _ => pure ()
  callConnection client call.toConnectionCall call.reply timeout

/-- Waits for the outcome of the attempt of a client to start. -/
def awaitStart (client : Nat) (timeout : Duration) : Sim Bool := do
  let task ← spawn .ended
  setTask task (.call client timeout (← answer client task timeout .outcome))
  runTask task
  match ← task? task with
  | some (.call _ _ (.finished (some answer))) => return answer
  | _ => return false

/-- Starts a client without waiting. -/
def spawnStart (client : Nat) (timeout : Duration) : Sim Unit := do
  let task ← spawn (.call client timeout (.announce .start .outcome))
  modifyClient client fun run => { run with spawned := run.spawned ++ [task] }

/-- The outcomes of the starts that nobody waits for. -/
def spawnedOutcomes (client : Nat) : Sim (List (Option Bool)) := do
  match ← client? client with
  | none => return []
  | some run =>
    run.spawned.mapM fun task => do
      match ← task? task with
      | some (.call _ _ (.finished answer)) => return answer
      | _ => return none

/-! ### Signals -/

/-- Lets a client follow a new channel of a signal. -/
def attach (client : Nat) (signal : Signal) (value : Bool) : Sim Unit := do
  let channel := (← get).channels.size
  match (← client? client).bind (·.channels.lookup signal) with
  | some old =>
    modify fun w => { w with channels := w.channels.modify old fun c => { c with isOpen := false } }
    (← get).channels[old]?.forM fun c => wake c.watcher
  | none => pure ()
  let task ← spawn (.watcher client signal channel 0 (.finished none))
  modify fun w => { w with channels := w.channels.push { value, watcher := task } }
  modifyClient client fun run => { run with
    watchers := run.watchers ++ [task]
    channels := (signal, channel) :: run.channels.filter (·.1 != signal) }

/-- The channel of a signal that can still be sent on. -/
def channel? (client : Nat) (signal : Signal) : Sim (Option Nat) := do
  return (← client? client).bind (·.channels.lookup signal)

/-- Sends a value on the channel of a signal, and tells whether somebody follows it; nothing if
there is no such channel. -/
def send (client : Nat) (signal : Signal) (value : Bool) : Sim (Option Bool) := do
  match ← channel? client signal with
  | none => return none
  | some channel =>
    let w ← get
    match w.channels[channel]? with
    | none => return none
    | some c =>
      match w.tasks[c.watcher]? with
      | some (.watcher _ _ _ _ _) =>
        set { w with channels := w.channels.modify channel fun c => { c with
          value, version := c.version + 1 } }
        wake c.watcher
        return some true
      | _ => return some false

/-- Closes the channel of a signal, and tells whether there was one. -/
def hangUp (client : Nat) (signal : Signal) : Sim Bool := do
  match ← channel? client signal with
  | none => return false
  | some channel =>
    modify fun w => { w with
      channels := w.channels.modify channel fun c => { c with isOpen := false } }
    modifyClient client fun run => { run with
      channels := run.channels.filter (·.1 != signal) }
    (← get).channels[channel]?.forM fun c => wake c.watcher
    return true

/-! ### Observers -/

/-- Registers a listener to changes. -/
def listenToChanges (client : Nat) (key : Option String) (listener : Listener Change) :
    Sim Unit := do
  let restricted := match key with
    | some key => Notifier.onlyKey key listener
    | none => listener
  let id ← withConnection client fun c =>
    let (id, notifier) := c.data.notifier.register restricted
    (id, { c with data := { c.data with notifier } })
  modifyClient client fun run => { run with
    listeners := (listener.name, false, id.getD 0) :: run.listeners }

/-- Registers a listener to the status. -/
def listenToStatus (client : Nat) (listener : Listener Status) : Sim Unit := do
  let id ← withConnection client fun c =>
    let (id, dispatcher) := c.status.dispatcher.register listener
    (id, { c with status := { c.status with dispatcher } })
  modifyClient client fun run => { run with
    listeners := (listener.name, true, id.getD 0) :: run.listeners }

/-- Removes the listener that was last registered under a name, and tells whether there was one. -/
def unlisten (client : Nat) (name : String) : Sim Bool := do
  match (← client? client).bind (·.listeners.lookup name) with
  | none => return false
  | some (isStatus, id) =>
    let found ← withConnection client fun c =>
      if isStatus then
        let (found, dispatcher) := c.status.dispatcher.unregister id
        (found, { c with status := { c.status with dispatcher } })
      else
        let (found, notifier) := c.data.notifier.unregister id
        (found, { c with data := { c.data with notifier } })
    return found.getD false

/-- Takes what a client shows since the last look. -/
def look (client : Nat) : Sim (Option ClientView) := do
  match ← client? client with
  | none => return none
  | some run =>
    let c := run.connection
    let (changes, changesNext) := c.data.notifier.broadcast.receive run.changes
    let (statuses, statusesNext) := c.status.dispatcher.broadcast.receive run.statuses
    let (changeCalls, notifier) := c.data.notifier.drain
    let (statusCalls, dispatcher) := c.status.dispatcher.drain
    modifyClient client fun run => { run with
      connection := { c with
        data := { c.data with notifier }
        status := { c.status with dispatcher } }
      changes := changesNext
      statuses := statusesNext
      seen := c.status.current }
    return some { run, before := run.seen, changes, statuses, changeCalls, statusCalls }

/-! ### Sources -/

/-- Starts a source that has no client. -/
def startAlone (source : Nat) : Sim TaskId :=
  spawn (.start source false none)

/-- The outcome of a start. -/
def startedOutcome (task : TaskId) : Sim (Option Bool) := do
  match ← task? task with
  | some (.start _ _ outcome) => return outcome
  | _ => return none

/-- Disposes a source and waits for the end of its worker. -/
def disposeAlone (source : Nat) : Sim Unit := do
  runTask (← spawn (.dispose source false false))

/-- Changes the flags for tests. -/
def withTests (f : TestFlags Nat → List (Nat × Delivery) × TestFlags Nat) : Sim Unit := do
  let w ← get
  let (deliveries, tests) := f w.tests
  set { w with tests }
  deliveries.forM fun (source, delivery) => deliver source delivery

/-- A source that is driven by hand delivers. Its own identity is the default. -/
def deliverByHand (manual : Nat) (delivery : SourceContext → Delivery) : Sim Unit := do
  match (← get).manuals[manual]? with
  | none => return ()
  | some source =>
    match ← source? source with
    | none => return ()
    | some run => deliver source (delivery run.context)

/-- Decides the start of a source that is driven by hand. -/
def finishByHand (manual : Nat) (outcome : Bool) : Sim Unit := do
  match (← get).manuals[manual]? with
  | none => return ()
  | some source => resolve source outcome

/-- The sources driven by hand that were built since the last look. -/
def takeBuilt : Sim (List SourceRun) := do
  let w ← get
  set { w with manualsSeen := w.manuals.size }
  return (w.manuals.toList.drop w.manualsSeen).filterMap (w.sources[·]?)

/-- The accesses to the shared storage since the last look. -/
def takeAccesses : Sim (List AccessRecord) := do
  let w ← get
  set { w with storage := { w.storage with accesses := [] } }
  return w.storage.accesses

/-- The deliveries of sources without a client since the last look. -/
def takeRecorded : Sim (List Delivery) := do
  let w ← get
  set { w with recorded := [] }
  return w.recorded

/-! ### The service -/

/-- Brings a further event on the stream that was opened last, and tells whether somebody reads. -/
def pushEvent (event : ScriptedEvent) : Sim Bool := do
  let w ← get
  modifyService (·.push event)
  for source in [0:w.sources.size] do
    expectEvent source
  return w.service.isHeard

/-- Ends the stream that was opened last, and tells whether there was one. -/
def closeStream : Sim Bool := do
  let w ← get
  modifyService (·.close)
  for source in [0:w.sources.size] do
    expectEvent source
  return w.service.latest.isSome

end Sim

end LiveFlags.Simulation
