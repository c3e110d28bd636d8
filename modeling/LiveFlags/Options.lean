import LiveFlags.Duration
import LiveFlags.Error.Code
import LiveFlags.Text.CharClass
import LiveFlags.Url.Basic

/-!
# Options of a client

`Options.check` refuses options that cannot work, reporting the first of these that applies: no
mobile key, an address of the service or of its stream that is no web address, a polling interval
that is too short or longer than the one for the background, reconnect delays that are zero or out
of order, and a timeout of zero.
-/

namespace LiveFlags

/-- How a client follows its flags. -/
inductive Mode where
  | streaming
  | polling
deriving DecidableEq, Repr, Inhabited

def Mode.name : Mode → String
  | .streaming => "streaming"
  | .polling => "polling"

/-- The options of a client. -/
structure Options where
  mobileKey : String
  baseUri : String := "https://clientsdk.flagsync.dev"
  streamUri : String := "https://clientstream.flagsync.dev"
  mode : Mode := .streaming
  pollingInterval : Duration := .ofSeconds 300
  backgroundPollingInterval : Duration := .ofSeconds 3600
  disableBackgroundUpdating : Bool := false
  streamEvenInBackground : Bool := false
  initialReconnectDelay : Duration := .ofSeconds 1
  maxReconnectDelay : Duration := .ofSeconds 60
  /-- How many identities the cache remembers: none of them for zero, all for a negative number. -/
  maxCachedIdentities : Int := 5
  startTimeout : Duration := .ofSeconds 5
  offline : Bool := false
  timeout : Duration := .ofSeconds 10
  storageNamespace : String := "flagsync"
deriving DecidableEq, Repr, Inhabited

/-- Which of the two addresses is meant. -/
inductive Endpoint where
  | base
  | stream
deriving DecidableEq, Repr

def Endpoint.name : Endpoint → String
  | .base => "base URI"
  | .stream => "stream URI"

/-- Why options are refused. -/
inductive OptionsFault where
  | noMobileKey
  | badUrl (endpoint : Endpoint) (fault : Url.Fault)
  | badScheme (endpoint : Endpoint) (scheme : String)
  | pollingTooOften
  | backgroundPollingTooOften
  | badReconnectDelays
  | noTimeout
deriving DecidableEq, Repr

namespace OptionsFault

def code : OptionsFault → ErrorCode
  | .noMobileKey => .configInvalidMobileKey
  | .badUrl _ _ | .badScheme _ _ => .configInvalidUrl
  | .pollingTooOften | .backgroundPollingTooOften => .configInvalidPollingInterval
  | .badReconnectDelays => .configInvalidReconnectDelay
  | .noTimeout => .configInvalidInterval

def message : OptionsFault → String
  | .noMobileKey => "Mobile key is required"
  | .badUrl endpoint fault => "Invalid " ++ endpoint.name ++ ": " ++ fault.message
  | .badScheme endpoint scheme => "Unsupported " ++ endpoint.name ++ " scheme: " ++ scheme
  | .pollingTooOften => "Polling interval must be at least 30s"
  | .backgroundPollingTooOften =>
    "Background polling interval must not be shorter than the polling interval"
  | .badReconnectDelays => "Reconnect delays must be positive and max must be >= initial"
  | .noTimeout => "Timeout must be positive"

def toClientError (fault : OptionsFault) : ClientError :=
  { code := fault.code, message := fault.message }

end OptionsFault

namespace Options

/-- The shortest polling interval that is accepted in the foreground. -/
def minPollingInterval : Duration := .ofSeconds 30

/-- Checks that an address is one of the web. -/
def checkUrl (endpoint : Endpoint) (uri : String) : Except OptionsFault Unit :=
  match Url.parse uri with
  | .error fault => .error (.badUrl endpoint fault)
  | .ok url =>
    if url.scheme = "http" ∨ url.scheme = "https" then .ok ()
    else .error (.badScheme endpoint url.scheme)

/-- Checks options; the first fault is reported. -/
def check (o : Options) : Except OptionsFault Unit := do
  if o.mobileKey.toList.all isBlank then .error .noMobileKey
  checkUrl .base o.baseUri
  checkUrl .stream o.streamUri
  if o.pollingInterval < minPollingInterval then .error .pollingTooOften
  if o.backgroundPollingInterval < o.pollingInterval then .error .backgroundPollingTooOften
  if o.initialReconnectDelay = .zero ∨ o.maxReconnectDelay < o.initialReconnectDelay then
    .error .badReconnectDelays
  if o.timeout = .zero then .error .noTimeout

/-- Whether anything is kept in the cache. -/
def isPersistent (o : Options) : Bool :=
  o.maxCachedIdentities ≠ 0

end Options

end LiveFlags
