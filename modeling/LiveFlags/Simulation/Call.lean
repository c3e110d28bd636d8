import LiveFlags.Simulation.Source

/-!
# Calls in virtual time

The tasks of clients: calls of the connection and watchers of signals. The critical section of a
connection is entered by one task at a time, in the order in which they came.
-/

namespace LiveFlags.Simulation.Sim

/-! ### The critical section -/

/-- Enters the critical section, or queues up for it. -/
def acquire (client : Nat) (task : TaskId) : Sim Bool := do
  match ← client? client with
  | none => return false
  | some run =>
    match run.holder with
    | none =>
      modifyClient client fun run => { run with holder := some task }
      return true
    | some holder =>
      if holder = task then return true
      modifyClient client fun run =>
        if run.queue.contains task then run else { run with queue := run.queue ++ [task] }
      return false

/-- Leaves the critical section to the next task. -/
def release (client : Nat) : Sim Unit := do
  match ← client? client with
  | some { queue := next :: queue, .. } =>
    modifyClient client fun run => { run with holder := some next, queue }
    wake next
  | _ => modifyClient client fun run => { run with holder := none }

/-- Ends the watchers of a client. -/
def abortWatchers (client : Nat) : Sim Unit := do
  match ← client? client with
  | none => return ()
  | some run =>
    run.watchers.forM fun task => do
      setTask task .ended
      modifyClient client fun run => { run with queue := run.queue.filter (· != task) }
      if run.holder = some task then release client
    modifyClient client fun run => { run with watchers := [] }

/-! ### Stages of a call -/

/-- The outcome of the attempt of a client to start. -/
def startOutcome? (client : Nat) : Sim (Option Bool) := do
  match ← client? client with
  | some run => return run.connection.startOutcome
  | none => return none

/-- What a call does when all is settled. -/
def answer (client : Nat) (task : TaskId) (timeout : Duration) : Reply → Sim CallStage
  | .nothing => return .finished none
  | .now b => return .finished (some b)
  | .outcome => do
    match ← startOutcome? client with
    | some outcome => return .finished (some outcome)
    | none =>
      if timeout = .zero then return .finished (some false)
      let deadline := (← get).now + timeout.millisUp
      wakeAt deadline task
      return .wait deadline

/-- Does the rest of a plan, leaves the critical section and answers. -/
def settle (client : Nat) (task : TaskId) (timeout : Duration) (plan : Plan) (reply : Reply) :
    Sim CallStage := do
  match ← withConnection client (·.settle plan) with
  | some (some order) =>
    let source ← addSource (.ofFactory order.factory order.context) order.context
      (.client client order.generation)
    let _ ← spawn (.start source false none)
  | _ => pure ()
  release client
  answer client task timeout reply

/-- Decides what to do in the critical section, and ends the old source. -/
def enter (client : Nat) (task : TaskId) (timeout : Duration) (critical : Critical)
    (reply : Reply) : Sim CallStage := do
  if ← acquire client task then
    match ← withConnection client fun c => (c.plan critical, c) with
    | none | some .stay =>
      release client
      answer client task timeout reply
    | some plan =>
      match (← withConnection client (·.cutOff)).join with
      | none => settle client task timeout plan reply
      | some generation =>
        match ← sourceOf? client generation with
        | none => settle client task timeout plan reply
        | some source =>
          if ← dispose source task then return .settle plan source reply
          else settle client task timeout plan reply
  else return .enter critical reply

/-- Changes the flags for a call. -/
def announce (client : Nat) (task : TaskId) (timeout : Duration)
    (call : ConnectionCall Factory) (reply : Reply) : Sim CallStage := do
  match (← withConnection client (·.announce call)).join, call with
  | none, .start => return .finished (some false)
  | none, _ => answer client task timeout reply
  | some critical, .close =>
    abortWatchers client
    enter client task timeout critical reply
  | some critical, _ => enter client task timeout critical reply

/-- A call goes on as far as it can. -/
def advance (client : Nat) (task : TaskId) (timeout : Duration) : CallStage → Sim CallStage
  | .announce call reply => announce client task timeout call reply
  | .enter critical reply => enter client task timeout critical reply
  | .settle plan source reply => do
    match ← source? source with
    | some run =>
      if run.life.isAlive then return .settle plan source reply
      else settle client task timeout plan reply
    | none => settle client task timeout plan reply
  | .wait deadline => do
    match ← startOutcome? client with
    | some outcome => return .finished (some outcome)
    | none =>
      if deadline ≤ (← get).now then return .finished (some false) else return .wait deadline
  | .finished result => return .finished result

/-! ### Tasks -/

/-- A watcher goes on with its call, or takes the next value of its channel. -/
def stepWatcher (task : TaskId) (client : Nat) (signal : Signal) (channel seen : Nat)
    (stage : CallStage) : Sim Unit := do
  match stage with
  | .finished _ =>
    match (← get).channels[channel]? with
    | none => setTask task .ended
    | some c =>
      if c.version ≠ seen then
        let stage ← announce client task .zero (signal.call c.value) .nothing
        setTask task (.watcher client signal channel c.version stage)
        wake task
      else if !c.isOpen then setTask task .ended
  | stage =>
    let stage ← advance client task .zero stage
    setTask task (.watcher client signal channel seen stage)
    match stage with
    | .finished _ => wake task
    | _ => return ()

/-- A task goes on. -/
def step (task : TaskId) : Sim Unit := do
  match ← task? task with
  | some (.call client timeout stage) =>
    let stage ← advance client task timeout stage
    match stage with
    | .finished _ => cancel task
    | _ => pure ()
    setTask task (.call client timeout stage)
  | some (.watcher client signal channel seen stage) =>
    stepWatcher task client signal channel seen stage
  | some (.start source begun none) => stepStart source task begun
  | some (.worker source) => stepWorker source task
  | some (.dispose source begun false) => stepDispose source task begun
  | _ => return ()

/-- Something arrives for a task. -/
def receive (task : TaskId) : Sim Unit := do
  match ← task? task with
  | some (.worker source) => arrive source task
  | _ => return ()

/-! ### Time -/

/-- Lets one task go on, or something arrive; false if the time stands in the way. -/
def turn : Sim Bool := do
  let w ← get
  match w.ready, w.arrivals with
  | task :: ready, _ =>
    set { w with ready }
    step task
    return true
  | [], task :: arrivals =>
    set { w with arrivals }
    receive task
    return true
  | [], [] => return false

/-- The time of the next timer. -/
def nextTimer? (w : World) : Option Nat :=
  (w.timers.map (·.1)).min?

/-- Lets the time jump and wakes the tasks whose time has come. -/
def jump (now : Nat) : Sim Unit := do
  let w ← get
  set { w with now, timers := w.timers.filter (now < ·.1) }
  ((w.timers.filter (·.1 ≤ now)).map (·.2)).forM wake

/-- Lets everything happen until a condition holds or, if there is one, until the time limit. -/
def runWhile (goesOn : World → Bool) (limit : Option Nat) : Nat → Sim Unit
  | 0 => return ()
  | fuel + 1 => do
    if goesOn (← get) then
      if ← turn then runWhile goesOn limit fuel
      else
        match nextTimer? (← get), limit with
        | some due, some limit =>
          if due ≤ limit then
            jump due
            runWhile goesOn (some limit) fuel
          else jump limit
        | some due, none =>
          jump due
          runWhile goesOn none fuel
        | none, some limit => jump limit
        | none, none => return ()

/-- More turns than any run takes. -/
def mostTurns : Nat := 100000000

/-- Lets a time pass. -/
def pass (span : Duration) : Sim Unit := do
  runWhile (fun _ => true) (some ((← get).now + span.millisUp)) mostTurns

/-- Whether a task is still at work. -/
def isBusy (task : TaskId) (w : World) : Bool :=
  match w.tasks[task]? with
  | some (.call _ _ (.finished _)) => false
  | some (.call _ _ _) => true
  | some (.dispose _ _ isDone) => !isDone
  | _ => false

/-- Lets everything happen until a task is done. -/
def runTask (task : TaskId) : Sim Unit :=
  runWhile (isBusy task) none mostTurns

end LiveFlags.Simulation.Sim
