import LiveFlags.FlagData
import LiveFlags.Source.Delivery

/-!
# The connection

The connection decides when a source runs and hands its deliveries on. Three inputs count: whether
the application forces it offline, whether there is a network, and whether the application is in the
background. At most one source is active. It is replaced in a critical section, in three steps: the
old source is cut off, then it is disposed, and only then the new one is built.

Each source has a generation, and so has the connection, which moves on whenever a source is cut off
or built. A delivery counts only if the generation of its source is that of the connection.

A `ConnectionCall` first changes flags (`announce`), and may then need the critical
section: `plan` decides what to do, `cutOff` ends the active source, and `settle` does the rest once
that source is disposed.
-/

namespace LiveFlags

/-- What the connection has been told. -/
structure ConnectionFlags where
  started : Bool := false
  forceOffline : Bool := false
  networkEnabled : Bool := true
  inBackground : Bool := false
  /-- Whether the latest source was built in the background. -/
  previouslyInBackground : Bool := false
  /-- Whether a source has delivered data for the current identity. -/
  initialized : Bool := false
  /-- Whether a source has stopped for good. -/
  shutDown : Bool := false
  closed : Bool := false
deriving DecidableEq, Repr, Inhabited

/-- The connection of a client. Factories are of a type `φ`. -/
structure Connection (σ φ : Type) where
  data : FlagData σ
  status : StatusTracker := {}
  disableBackgroundUpdating : Bool := false
  factory : φ
  flags : ConnectionFlags := {}
  /-- The generation of the active source. -/
  active : Option Nat := none
  generation : Nat := 0
  /-- The outcome of the current attempt to start; none while it is open. -/
  startOutcome : Option Bool := none
  /-- The latest reading of the clock. -/
  clock : Nat := 0

/-- A public call. -/
inductive ConnectionCall (φ : Type) where
  | start
  | setForceOffline (offline : Bool)
  | setNetworkEnabled (enabled : Bool)
  | setInBackground (inBackground : Bool)
  /-- Replaces the source, and the factory if one is given; `reset` asks for fresh data. -/
  | reconfigure (factory : Option φ) (reset : Bool)
  | close

/-- What a call wants from the critical section. -/
inductive Critical where
  /-- Brings the source in line with the flags; `rebuild` replaces even one that could stay. -/
  | update (rebuild : Bool)
  | close
deriving DecidableEq, Repr

/-- What is to be done in the critical section. -/
inductive Plan where
  | stay
  | goOffline (state : ConnectionState)
  | replace
  | close
deriving DecidableEq, Repr

/-- The order to build a source. -/
structure BuildOrder (φ : Type) where
  factory : φ
  generation : Nat
  context : SourceContext

/-- What the critical section asks of the world outside. -/
inductive SourceOrder (φ : Type) where
  | dispose (generation : Nat)
  | build (order : BuildOrder φ)

namespace Connection

variable {σ φ : Type}

/-! ### Status and data -/

/-- Updates the status at a new reading of the clock. -/
def updateStatus (c : Connection σ φ) (state : Option ConnectionState)
    (error : Option SourceError) : Connection σ φ :=
  { c with status := c.status.update state error (c.clock + 1), clock := c.clock + 1 }

def setState (c : Connection σ φ) (state : ConnectionState) : Connection σ φ :=
  c.updateStatus (some state) none

/-- Moves the failures of the cache into the status. -/
def reportFailures (c : Connection σ φ) : Connection σ φ :=
  let (failures, cache) := c.data.cache.collect
  failures.foldl (fun c e => c.updateStatus none (some e)) { c with data := { c.data with cache } }

/-- Puts changed flags in place; failures of the cache go into the status. -/
def withData (c : Connection σ φ) (data : FlagData σ) : Connection σ φ :=
  { c with data, clock := c.clock + 1 }.reportFailures

/-- The reading of the clock for the next change of the flags. -/
def nextReading (c : Connection σ φ) : Int :=
  c.clock + 1

/-- Decides the attempt to start unless it is decided. -/
def finishStart (c : Connection σ φ) (succeeded : Bool) : Connection σ φ :=
  { c with startOutcome := c.startOutcome.or (some succeeded) }

/-! ### Decisions -/

/-- The state that keeps the connection from running a source. Being forced offline goes before a
missing network, and that before the background. -/
def offlineState? (c : Connection σ φ) : Option ConnectionState :=
  if c.flags.forceOffline then some .setOffline
  else if !c.flags.networkEnabled then some .networkUnavailable
  else if c.flags.inBackground && c.disableBackgroundUpdating then some .backgroundDisabled
  else none

/-- What is to be done for a call that has come to the critical section. -/
def plan (c : Connection σ φ) : Critical → Plan
  | .close => .close
  | .update rebuild =>
    if c.flags.closed || !c.flags.started || c.flags.shutDown then .stay
    else
      match c.offlineState? with
      | some state => .goOffline state
      | none => if c.active.isSome && !rebuild then .stay else .replace

/-- Ends the active source: its deliveries count no more, and it is to be disposed. -/
def cutOff (c : Connection σ φ) : Option Nat × Connection σ φ :=
  match c.active with
  | some source => (some source, { c with active := none, generation := c.generation + 1 })
  | none => (none, c)

/-- What a new source is told. -/
def sourceContext (c : Connection σ φ) : SourceContext where
  identity := c.data.identity
  inBackground := c.flags.inBackground
  previouslyInBackground := c.flags.previouslyInBackground
  initialized := c.flags.initialized

/-- Builds a source after the old one is gone. -/
def build (c : Connection σ φ) : BuildOrder φ × Connection σ φ :=
  let order : BuildOrder φ := ⟨c.factory, c.generation + 1, c.sourceContext⟩
  let opened := { c with
    flags := { c.flags with previouslyInBackground := c.flags.inBackground }
    generation := c.generation + 1
    active := some (c.generation + 1)
    startOutcome := if c.flags.initialized then some true else none }
  (order,
    if !c.flags.initialized || c.status.state.isOffline then opened.setState .initializing
    else opened)

/-- Does the rest of a plan once the old source is disposed. -/
def settle (c : Connection σ φ) : Plan → Option (BuildOrder φ) × Connection σ φ
  | .stay => (none, c)
  | .goOffline state =>
    (none, { c.setState state with startOutcome := some (state = .setOffline) })
  | .replace => let (order, c) := c.build; (some order, c)
  | .close => (none, (c.setState .shutdown).finishStart false)

/-- The whole critical section without anything in between. -/
def criticalSection (c : Connection σ φ) (critical : Critical) :
    List (SourceOrder φ) × Connection σ φ :=
  match c.plan critical with
  | .stay => ([], c)
  | plan =>
    let (old, c) := c.cutOff
    let (order, c) := c.settle plan
    ((old.map .dispose).toList ++ (order.map .build).toList, c)

/-! ### Calls -/

/-- Changes the flags for a call, and says what the call wants from the critical section. A call
that changes nothing ends here. -/
def announce (c : Connection σ φ) : ConnectionCall φ → Option Critical × Connection σ φ
  | .start =>
    if c.flags.closed then (none, c)
    else (some (.update false), { c with flags := { c.flags with started := true } })
  | .setForceOffline offline =>
    if c.flags.forceOffline = offline then (none, c)
    else (some (.update false), { c with flags := { c.flags with forceOffline := offline } })
  | .setNetworkEnabled enabled =>
    if c.flags.networkEnabled = enabled then (none, c)
    else (some (.update false), { c with flags := { c.flags with networkEnabled := enabled } })
  | .setInBackground inBackground =>
    if c.flags.inBackground = inBackground then (none, c)
    else (some (.update true), { c with flags := { c.flags with inBackground } })
  | .reconfigure factory reset =>
    (some (.update true), { c with
      factory := factory.getD c.factory
      flags := { c.flags with initialized := c.flags.initialized && !reset } })
  | .close =>
    if c.flags.closed then (none, c)
    else (some .close, { c with flags := { c.flags with closed := true } })

/-! ### Sources -/

/-- Whether a source is the one whose deliveries count. -/
def isCurrent (c : Connection σ φ) (source : Nat) : Bool :=
  c.generation = source

/-- Marks the data as there. -/
def markInitialized (c : Connection σ φ) : Connection σ φ :=
  { c with flags := { c.flags with initialized := true } }

/-- What follows the start of a source that is still the current one. -/
def acceptStart (c : Connection σ φ) (succeeded : Bool) : Connection σ φ :=
  (if succeeded then c.markInitialized else c).finishStart succeeded

/-- The start of a source is decided. -/
def onStarted (c : Connection σ φ) (source : Nat) (succeeded : Bool) : Connection σ φ :=
  if c.isCurrent source then c.acceptStart succeeded else c

/-- A source has stopped for good. -/
def onShutDown (c : Connection σ φ) (error : SourceError) : Connection σ φ :=
  (({ c with flags := { c.flags with shutDown := true } }).updateStatus (some .shutdown)
    (some error)).finishStart false

variable [Storage σ]

/-- Follows a delivery of the current source. -/
def accept (c : Connection σ φ) : Delivery → Connection σ φ
  | .snapshot identity snapshot => c.withData (c.data.init identity snapshot c.nextReading)
  | .item identity item => c.withData (c.data.upsert identity item c.nextReading)
  | .status state error => c.updateStatus state error
  | .failure error => c.onShutDown error

/-- A source delivers. -/
def deliver (c : Connection σ φ) (source : Nat) (delivery : Delivery) : Connection σ φ :=
  if c.isCurrent source then c.accept delivery else c

/-- Makes an identity the current one, without touching the source, and tells whether the cache
remembers it. -/
def switchData (c : Connection σ φ) (identity : Identity) : Bool × Connection σ φ :=
  let (found, data) := c.data.switch identity c.nextReading
  (found, c.withData data)

end Connection

end LiveFlags
