import LiveFlags.Simulation.World

/-!
# Sources in virtual time

The tasks of sources: starting one, the turns of its worker, and disposing it.
-/

namespace LiveFlags.Simulation

/-- Half of the jitter: the draw for every delay before a new attempt. -/
def draw : Nat := Backoff.drawRange / 2

namespace SourceKind

/-- The source that a factory builds. In the background a stream is opened only if the options say
so. -/
def ofFactory (factory : Factory) (context : SourceContext) : SourceKind :=
  match factory with
  | .test => .test
  | .manual name => .manual name
  | .service o =>
    match o.mode with
    | .polling => .polling (.ofOptions o context)
    | .streaming =>
      if context.inBackground && !o.streamEvenInBackground then .polling (.ofOptions o context)
      else .streaming (.ofOptions o context)

/-- The turn of a worker, if the source has one. -/
def turn (kind : SourceKind) (polling : Polling → Turn) (streaming : Streaming → Turn × Streaming) :
    Option (Turn × SourceKind) :=
  match kind with
  | .polling p => some (polling p, .polling p)
  | .streaming s => let (t, s) := streaming s; some (t, .streaming s)
  | _ => none

def onStart (kind : SourceKind) : Option (Turn × SourceKind) :=
  kind.turn (·.start) fun s => (Streaming.start, s)

def onTimer (kind : SourceKind) : Option (Turn × SourceKind) :=
  kind.turn (fun _ => Polling.onTimer) fun s => (Streaming.start, s)

def onFetch (kind : SourceKind) (answer : Except SourceError Snapshot) :
    Option (Turn × SourceKind) :=
  kind.turn (·.onFetch answer) (·.onFetch answer draw)

def onSubscribed (kind : SourceKind) (answer : Except SourceError Unit) :
    Option (Turn × SourceKind) :=
  kind.turn (fun _ => { await := .nothing }) (·.onSubscribed answer draw)

def onEvent (kind : SourceKind) (event : Except SourceError StreamEvent) :
    Option (Turn × SourceKind) :=
  kind.turn (fun _ => { await := .nothing }) (·.onEvent event draw)

def onEnd (kind : SourceKind) : Option (Turn × SourceKind) :=
  kind.turn (fun _ => { await := .nothing }) (·.onEnd draw)

end SourceKind

namespace Sim

/-! ### Workers -/

/-- A worker stops reading its stream. -/
def leaveStream (source : Nat) : Sim Unit := do
  match ← source? source with
  | some { stream := some stream, .. } =>
    modifyService (·.leave stream)
    modifySource source fun run => { run with stream := none }
  | _ => return ()

/-- A worker ends. -/
def endWorker (source : Nat) : Sim Unit := do
  leaveStream source
  match ← source? source with
  | none => return ()
  | some run =>
    modifySource source fun run => { run with life := run.life.finish, joiner := none }
    run.worker.forM fun task => do
      cancel task
      setTask task .ended
    run.joiner.forM wake

/-- Lets a worker expect the next event of its stream, if it is on its way. -/
def expectEvent (source : Nat) : Sim Unit := do
  let w ← get
  match w.sources[source]? with
  | some { stream := some stream, worker := some task, pending := .event, .. } =>
    match w.service.news stream with
    | .silence => return ()
    | _ => expect task
  | _ => return ()

/-- A worker begins to wait. -/
def await (source : Nat) (task : TaskId) (identity : Identity) (await : Await) : Sim Unit := do
  let hold (pending : Pending) := modifySource source fun run => { run with pending }
  let now := (← get).now
  match await with
  | .timer delay =>
    leaveStream source
    hold (.timer (now + delay.millisUp))
    if delay.millisUp = 0 then wake task else wakeAt (now + delay.millisUp) task
  | .fetch =>
    let (next, service) := (← get).service.fetch identity
    modifyService fun _ => service
    if next.delay = .zero then
      hold (.fetch next.answer none)
      expect task
    else
      hold (.fetch next.answer (some (now + next.delay.millisUp)))
      wakeAt (now + next.delay.millisUp) task
  | .subscription =>
    let (next, service) := (← get).service.subscribe identity
    modifyService fun _ => service
    hold (.subscription next)
    expect task
  | .event =>
    hold .event
    expectEvent source
  | .nothing => endWorker source

/-- A worker takes a turn. -/
def takeTurn (source : Nat) (task : TaskId) (identity : Identity)
    (turn : Option (Turn × SourceKind)) : Sim Unit := do
  match turn with
  | none => return ()
  | some (turn, kind) =>
    modifySource source fun run => { run with kind, loaded := run.loaded || turn.loaded }
    turn.deliveries.forM (deliver source)
    turn.outcome.forM (resolve source)
    await source task identity turn.await

/-- A worker goes on: it stops if it was told to, begins, or follows a timer. -/
def stepWorker (source : Nat) (task : TaskId) : Sim Unit := do
  let w ← get
  match w.sources[source]? with
  | none => return ()
  | some run =>
    match run.life.worker with
    | .stopping => endWorker source
    | .running =>
      match run.pending with
      | .nothing => takeTurn source task run.context.identity run.kind.onStart
      | .timer due =>
        if due ≤ w.now then takeTurn source task run.context.identity run.kind.onTimer
      | .fetch answer (some due) =>
        if due ≤ w.now then
          modifySource source fun run => { run with pending := .fetch answer none }
          expect task
      | _ => return ()
    | _ => return ()

/-- What a worker waits for arrives. -/
def arrive (source : Nat) (task : TaskId) : Sim Unit := do
  let w ← get
  match w.sources[source]? with
  | none => return ()
  | some run =>
    let take := takeTurn source task run.context.identity
    match run.pending, run.stream with
    | .fetch answer none, _ => take (run.kind.onFetch answer)
    | .subscription (.refuse error), _ => take (run.kind.onSubscribed (.error error))
    | .subscription (.accept events closes), _ =>
      let (stream, service) := w.service.openStream events closes
      modifyService fun _ => service
      modifySource source fun run => { run with stream := some stream }
      take (run.kind.onSubscribed (.ok ()))
    | .event, some stream =>
      let news := w.service.news stream
      modifyService (·.advance stream)
      match news with
      | .silence => return ()
      | .ended => take run.kind.onEnd
      | .event event =>
        match event.read with
        | .ok none => expectEvent source
        | .ok (some event) => take (run.kind.onEvent (.ok event))
        | .error error => take (run.kind.onEvent (.error error))
    | _, _ => return ()

/-! ### Starts and disposals -/

/-- The start of a source is decided. -/
def finishStart (source : Nat) (task : TaskId) (outcome : Bool) : Sim Unit := do
  setTask task (.start source true (some outcome))
  match ← source? source with
  | some { sink := .client client generation, .. } =>
    modifyConnection client fun c => c.onStarted generation outcome
  | _ => return ()

/-- Waits for the outcome of the start of a source. -/
def awaitOutcome (source : Nat) (task : TaskId) : Sim Unit := do
  match ← source? source with
  | some { life := { outcome := some outcome, .. }, .. } => finishStart source task outcome
  | _ =>
    setTask task (.start source true none)
    modifySource source fun run =>
      if run.starters.contains task then run
      else { run with starters := run.starters ++ [task] }

/-- Makes the worker of a source, unless that was done or forbidden. -/
def startWorker (source : Nat) (life : Lifecycle) : Sim Unit := do
  let started := life.start
  modifySource source fun run => { run with life := started }
  if life.spawned < started.spawned then
    let task ← spawn (.worker source)
    modifySource source fun run => { run with worker := some task }

/-- A start goes on. -/
def stepStart (source : Nat) (task : TaskId) (begun : Bool) : Sim Unit := do
  let w ← get
  match w.sources[source]? with
  | none => return ()
  | some run =>
    if begun then awaitOutcome source task
    else
      match run.kind with
      | .test =>
        let (ok, deliveries, tests) := w.tests.start source
        set { w with tests }
        deliveries.forM (deliver source)
        finishStart source task ok
      | .manual _ => awaitOutcome source task
      | _ =>
        startWorker source run.life
        awaitOutcome source task

/-- Disposes a source for a task, and tells whether the task has to wait for the end of a worker. -/
def dispose (source : Nat) (task : TaskId) : Sim Bool := do
  let w ← get
  match w.sources[source]? with
  | none => return false
  | some run =>
    match run.kind with
    | .test =>
      set { w with tests := w.tests.dispose source }
      return false
    | .manual _ =>
      resolve source false
      return false
    | _ =>
      let (waits, life) := run.life.dispose
      modifySource source fun run => { run with
        life, starters := [], joiner := if waits then some task else run.joiner }
      run.starters.forM wake
      if life.worker = .stopping then run.worker.forM wake
      return waits

/-- A disposal goes on. -/
def stepDispose (source : Nat) (task : TaskId) (begun : Bool) : Sim Unit := do
  if begun then setTask task (.dispose source true true)
  else
    let waits ← dispose source task
    setTask task (.dispose source true (!waits))

/-- Adds a source. -/
def addSource (kind : SourceKind) (context : SourceContext) (sink : Sink) : Sim Nat := do
  let w ← get
  let source := w.sources.size
  set { w with
    sources := w.sources.push { sink, context, kind }
    tests := match kind with
      | .test => w.tests.build source context
      | _ => w.tests
    manuals := match kind with
      | .manual _ => w.manuals.push source
      | _ => w.manuals }
  return source

end Sim

end LiveFlags.Simulation
