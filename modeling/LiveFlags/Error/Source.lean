import LiveFlags.Error.Code
import LiveFlags.Redaction.Rules
import LiveFlags.Json.Record

/-!
# Errors of data sources

A `SourceError` is a failure that a data source, or the store behind it, reports. Its message has
been redacted when it was made from a raw text. A source retries after a recoverable error and
stops for good after any other.

`StampedError` is the form in which such an error travels: together with the time at which it was
made.
-/

namespace LiveFlags

/-- The kind of a failure as observers of the status see it. -/
inductive ErrorKind where
  /-- No answer from the service. -/
  | network
  /-- The service answered with an error status. -/
  | response
  /-- The service answered with data that cannot be read. -/
  | invalidData
  /-- An update could not be kept locally. -/
  | store
  | unknown
deriving DecidableEq, Repr, Inhabited

def ErrorKind.all : List ErrorKind :=
  [.network, .response, .invalidData, .store, .unknown]

def ErrorKind.name : ErrorKind → String
  | .network => "NETWORK_ERROR"
  | .response => "ERROR_RESPONSE"
  | .invalidData => "INVALID_DATA"
  | .store => "STORE_ERROR"
  | .unknown => "UNKNOWN"

/-- Whether a request that failed with this status is worth repeating: of the statuses that blame
the request only three are. -/
def isRetryableStatus (status : Nat) : Bool :=
  if 400 ≤ status ∧ status < 500 then status = 400 || status = 408 || status = 429 else true

/-- A failure reported by a data source or by the store behind it. -/
structure SourceError where
  kind : ErrorKind
  status : Option Nat
  message : String
deriving DecidableEq, Repr, Inhabited

namespace SourceError

/-- An error without a status from a raw message. -/
def ofMessage (kind : ErrorKind) (message : String) : SourceError :=
  ⟨kind, none, redact message⟩

def network (message : String) : SourceError :=
  ofMessage .network message

def invalidData (message : String) : SourceError :=
  ofMessage .invalidData message

def store (message : String) : SourceError :=
  ofMessage .store message

/-- The service answered with an error status. -/
def response (status : Nat) : SourceError :=
  { ofMessage .response ("unexpected response status " ++ toString status) with
    status := some status }

/-- Whether the source should keep trying. -/
def isRecoverable (e : SourceError) : Bool :=
  match e.kind, e.status with
  | .response, some status => isRetryableStatus status
  | _, _ => true

def code (e : SourceError) : ErrorCode :=
  match e.kind, e.status with
  | .response, some status => .ofStatus status
  | .network, _ => .networkError
  | .invalidData, _ => .dataSourceInvalidData
  | .store, _ => .cacheWriteError
  | _, _ => .initFailed

def display (e : SourceError) : String :=
  match e.status with
  | some status => e.kind.name ++ " (" ++ toString status ++ "): " ++ e.message
  | none => e.kind.name ++ ": " ++ e.message

/-- The same failure as an error of the client. -/
def toClientError (e : SourceError) : ClientError :=
  { code := e.code, message := e.message }

/-- The members of the wire form that do not tell a time. -/
def members (e : SourceError) : List (String × Json) :=
  [("kind", .str e.kind.name), ("statusCode", (e.status.map fun s => Json.int s).getD .null),
    ("message", .str e.message)]

end SourceError

/-- A source error and the time at which it was made. -/
structure StampedError where
  error : SourceError
  time : Instant
deriving DecidableEq, Repr

namespace StampedError

def toJson (e : StampedError) : Json :=
  .obj (e.error.members ++ [("time", .str e.time.text)])

/-- The fields of an error read so far. -/
structure Draft where
  kind : Option ErrorKind := none
  status : Option (Option Nat) := none
  message : Option String := none
  time : Option Instant := none

open Json in
/-- The fields of an error on the wire. -/
def record : Record Draft where
  name := "DataSourceError"
  fields := [
    { name := "kind", optional := false, droppable := false, isSet := (·.kind.isSome),
      read := fun depth d => return { d with
        kind := ← readVariant depth (ErrorKind.all.map fun k => (k.name, k)) } },
    { name := "statusCode", optional := true, droppable := false, isSet := (·.status.isSome),
      read := fun _ d => return { d with status := some (← readOptional (readUnsigned 16)) } },
    { name := "message", optional := false, droppable := false, isSet := (·.message.isSome),
      read := fun _ d => return { d with message := ← readText "a string" } },
    { name := "time", optional := false, droppable := false, isSet := (·.time.isSome),
      read := fun _ d => return { d with time := ← readTime } }]

/-- The error of a complete draft. -/
def Draft.finish (draft : Draft) : StampedError where
  error := ⟨draft.kind.getD .unknown, draft.status.getD none, draft.message.getD ""⟩
  time := draft.time.getD default

/-- Reads a text that holds one error. The message is kept as it stands. -/
def decode (text : String) : Except Json.Fault StampedError :=
  Json.decode (return (← record.read Json.deepest {}).finish) text

end StampedError

end LiveFlags
