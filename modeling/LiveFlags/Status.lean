import LiveFlags.Dispatch.Basic
import LiveFlags.Error.Source

/-!
# Status of the connection

The status says in which state the connection is and since when, the last error that was reported,
and the start of the latest stay in the state `valid`. A tracker keeps the current status and
publishes each status that differs by its state or comes with an error.

There is nothing to interrupt before the first data: a request for `interrupted` in the state
`initializing` is read as `initializing`. Times are readings of a clock, which are only compared.
-/

namespace LiveFlags

/-- The state of the connection. -/
inductive ConnectionState where
  /-- There is no data for the current identity yet. -/
  | initializing
  | valid
  /-- The connection is lost; the source tries again. -/
  | interrupted
  | backgroundDisabled
  | networkUnavailable
  | setOffline
  /-- The connection has ended for good. -/
  | shutdown
deriving DecidableEq, Repr, Inhabited

namespace ConnectionState

def all : List ConnectionState :=
  [.initializing, .valid, .interrupted, .backgroundDisabled, .networkUnavailable, .setOffline,
    .shutdown]

def name : ConnectionState → String
  | .initializing => "INITIALIZING"
  | .valid => "VALID"
  | .interrupted => "INTERRUPTED"
  | .backgroundDisabled => "BACKGROUND_DISABLED"
  | .networkUnavailable => "NETWORK_UNAVAILABLE"
  | .setOffline => "SET_OFFLINE"
  | .shutdown => "SHUTDOWN"

/-- Whether no source is expected to run in the state. -/
def isOffline : ConnectionState → Bool
  | .backgroundDisabled | .networkUnavailable | .setOffline | .shutdown => true
  | _ => false

end ConnectionState

/-- The status of the connection. -/
structure Status where
  state : ConnectionState := .initializing
  /-- When the state was entered. -/
  since : Nat := 0
  lastError : Option SourceError := none
  /-- When the latest stay in the state `valid` began. -/
  lastSuccess : Option Nat := none
deriving DecidableEq, Repr, Inhabited

namespace Status

/-- The state that a request leads to. -/
def reached (s : Status) (requested : ConnectionState) : ConnectionState :=
  if requested = .interrupted ∧ s.state = .initializing then .initializing else requested

/-- Follows a request for a state at a reading of the clock. -/
def enter (s : Status) (requested : ConnectionState) (now : Nat) : Status :=
  let state := s.reached requested
  let moved := if state = s.state then s else { s with state, since := now }
  if state = .valid then { moved with lastSuccess := some moved.since } else moved

/-- Records an error. -/
def record (s : Status) (error : SourceError) : Status :=
  { s with lastError := some error }

/-- The status after a request, an error or both. -/
def update (s : Status) (requested : Option ConnectionState) (error : Option SourceError)
    (now : Nat) : Status :=
  let entered := match requested with
    | some state => s.enter state now
    | none => s
  match error with
  | some error => entered.record error
  | none => entered

/-- Whether a request or an error gives observers something new. -/
def isNews (s : Status) (requested : Option ConnectionState) (error : Option SourceError) : Bool :=
  error.isSome || requested.any fun state => s.reached state ≠ s.state

end Status

/-- The current status and its observers. -/
structure StatusTracker where
  current : Status := {}
  dispatcher : Dispatcher Status := {}

namespace StatusTracker

def state (t : StatusTracker) : ConnectionState :=
  t.current.state

/-- Follows a request, an error or both, and publishes what is news. -/
def update (t : StatusTracker) (requested : Option ConnectionState) (error : Option SourceError)
    (now : Nat) : StatusTracker :=
  let next := t.current.update requested error now
  { current := next
    dispatcher :=
      if t.current.isNews requested error then t.dispatcher.dispatch next else t.dispatcher }

def setState (t : StatusTracker) (state : ConnectionState) (now : Nat) : StatusTracker :=
  t.update (some state) none now

def recordError (t : StatusTracker) (error : SourceError) (now : Nat) : StatusTracker :=
  t.update none (some error) now

end StatusTracker

end LiveFlags
