import LiveFlags.Connection.Basic
import LiveFlags.Options

/-!
# The client

A client is a connection that was made from options that passed their check. Its public calls are
calls of the connection, some after a switch of the identity; `Reply` says what they answer.
-/

namespace LiveFlags

/-- A public call of a client. -/
inductive ClientCall where
  | start
  | setOffline (offline : Bool)
  | switchIdentity (identity : Identity)
  | setNetworkAvailable (available : Bool)
  | setInBackground (inBackground : Bool)
  | close

/-- What a call answers. -/
inductive Reply where
  | nothing
  | now (answer : Bool)
  /-- The outcome of the attempt to start, waited for until a timeout; false after that. -/
  | outcome
deriving DecidableEq, Repr

namespace ClientCall

/-- The call of the connection behind a call of the client. -/
def toConnectionCall {φ : Type} : ClientCall → ConnectionCall φ
  | .start => .start
  | .setOffline offline => .setForceOffline offline
  | .switchIdentity _ => .reconfigure none true
  | .setNetworkAvailable available => .setNetworkEnabled available
  | .setInBackground inBackground => .setInBackground inBackground
  | .close => .close

/-- What a call answers. Going offline needs no data, so there is nothing to wait for. -/
def reply : ClientCall → Reply
  | .start => .outcome
  | .setOffline offline => if offline then .now true else .outcome
  | .switchIdentity _ => .outcome
  | _ => .nothing

end ClientCall

namespace Connection

variable {σ φ : Type} [Storage σ]

/-- The parts of a client put together. Failures to read the index of the cache go unreported, since
nobody listens yet. -/
def mount (o : Options) (identity : Identity) (storage : σ) (factory : φ) : Connection σ φ :=
  let cache := (Cache.mount storage o.storageNamespace o.maxCachedIdentities).collect.2
  reportFailures {
    data := .mount identity cache 0, disableBackgroundUpdating := o.disableBackgroundUpdating
    factory, flags := { forceOffline := o.offline } }

/-- Makes a client, if its options pass their check. -/
def ofOptions (o : Options) (identity : Identity) (storage : σ) (factory : φ) :
    Except OptionsFault (Connection σ φ) := do
  o.check
  return mount o identity storage factory

omit [Storage σ] in
/-- What a call that waits no longer answers. -/
def outcome (c : Connection σ φ) : Bool :=
  c.startOutcome.getD false

end Connection

/-- A client cannot be made where nothing can run its tasks. -/
def ClientError.noRuntime : ClientError where
  code := .initFailed
  message := "FlagSyncClient must be created within a Tokio runtime"
  source := some
    "there is no reactor running, must be called from the context of a Tokio 1.x runtime"

end LiveFlags
