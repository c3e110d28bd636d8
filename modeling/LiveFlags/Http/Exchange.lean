import LiveFlags.Http.Endpoint
import LiveFlags.Http.EventStream
import LiveFlags.Identity

/-!
# Requests to the service and their answers

Both requests post the identity. The answer to a fetch holds the whole set of flags; the answer to
the opening of a stream is a text that goes on for as long as the connection lasts, read here as a
whole once it has ended.

A stream is read up to the first byte that is not part of a text. What follows that byte is lost,
and the fault is reported when the stream ends.
-/

namespace LiveFlags

/-! ### Requests -/

/-- A request to the service. -/
structure Request where
  url : Url
  authorization : String
  accept : String
  cacheControl : Option String
  identity : Identity

namespace Request

/-- The headers that are the same in all requests. -/
def userAgent : String := "FlagSync-Rust/0.1.0"

def contentType : String := "application/json"

/-- Bytes that may stand in the value of a header. -/
def isHeaderByte (b : UInt8) : Bool :=
  b = 9 || (32 ≤ b && b ≠ 127)

/-- A request can be made of an address and a mobile key that is fit for a header. -/
def make (address mobileKey accept : String) (cacheControl : Option String) (identity : Identity) :
    Except SourceError Request :=
  match Url.parse address with
  | .ok url =>
    if (Utf8.encode mobileKey.toList).all isHeaderByte then
      .ok { url, authorization := mobileKey, accept, cacheControl, identity }
    else .error (.network "builder error")
  | .error _ => .error (.network "builder error")

/-- The request for the whole set of flags. -/
def fetch (o : Options) (identity : Identity) : Except SourceError Request :=
  make o.fetchUrl o.mobileKey "*/*" none identity

/-- The request for the stream of changes. -/
def stream (o : Options) (identity : Identity) : Except SourceError Request :=
  make o.streamUrl o.mobileKey "text/event-stream" (some "no-cache") identity

end Request

/-! ### Answers -/

/-- What a body holds, and whether all of it came that was announced. -/
structure Body where
  bytes : List UInt8
  complete : Bool := true

/-- What becomes of a request. -/
inductive Response where
  /-- Nobody takes the connection. -/
  | refused
  /-- No answer comes in time. -/
  | silence
  /-- The connection ends without an answer, or with what is no answer. -/
  | broken
  | answer (status : Nat) (body : Body)

namespace Response

/-- The error of a request that did not get an answer. -/
def unanswered (url : Url) (prelude : String) : SourceError :=
  .network (prelude ++ "error sending request for url (" ++ url.text ++ ")")

/-- The body of an answer that tells of success. The answer without content has none, whatever
follows it on the connection. -/
def body (url : Url) : Response → Except SourceError Body
  | .refused => .error (unanswered url "Connection failed: ")
  | .silence => .error (unanswered url "Request timed out: ")
  | .broken => .error (unanswered url "")
  | .answer status body =>
    if status < 200 ∨ 300 ≤ status then .error (.response status)
    else if status = 204 then .ok { bytes := [] }
    else .ok body

end Response

namespace Body

/-- The set of flags that a body holds. Bytes that are no text are replaced, and the items take the
keys under which they stand. -/
def snapshot (body : Body) : Except SourceError Snapshot :=
  if body.complete then
    match Snapshot.decode (Utf8.lossy body.bytes) with
    | .ok snapshot => .ok snapshot.rekeyed
    | .error fault => .error (.invalidData ("Failed to parse flags: " ++ fault.message))
  else .error (.invalidData "error decoding response body")

/-- A stream cannot be read on. -/
def broken (message : String) : SourceError :=
  .network ("Stream read failed: " ++ message)

/-- The fault of bytes that are no text, which end the part of a stream that is read. -/
def notText : Utf8.Fault → SourceError
  | .invalid length =>
    broken ("UTF8 error: invalid utf-8 sequence of " ++ toString length ++ " bytes from index 0")
  | .incomplete => broken "UTF8 error: incomplete utf-8 byte sequence from index 0"

/-- The events of a body, and at the end the faults of the connection and of its text. -/
def events (body : Body) : List (Except SourceError StreamEvent) :=
  let (text, fault) := Utf8.validPart body.bytes
  let cut := if body.complete then [] else
    [Except.error (broken "Transport error: error decoding response body")]
  StreamEvent.ofText text ++ cut ++ (fault.toList.map fun f => .error (notText f))

end Body

end LiveFlags
