/-!
# Error codes

`ErrorCode` is the stable classification of failures that applications can act on. A code is
*recoverable* when trying again may succeed.
-/

namespace LiveFlags

/-- What went wrong, for applications. -/
inductive ErrorCode where
  | initFailed
  | networkError
  | networkTimeout
  | httpBadRequest
  | httpUnauthorized
  | httpForbidden
  | httpNotFound
  | httpRateLimited
  | httpServerError
  | httpInvalidResponse
  | cacheReadError
  | cacheWriteError
  | cacheInvalidData
  | cacheStorageError
  | dataSourceShutdown
  | dataSourceInvalidData
  | configInvalidUrl
  | configInvalidInterval
  | configInvalidMobileKey
  | configInvalidPollingInterval
  | configInvalidReconnectDelay
deriving DecidableEq, Repr, Inhabited

namespace ErrorCode

/-- All codes. -/
def all : List ErrorCode :=
  [.initFailed, .networkError, .networkTimeout, .httpBadRequest, .httpUnauthorized,
    .httpForbidden, .httpNotFound, .httpRateLimited, .httpServerError, .httpInvalidResponse,
    .cacheReadError, .cacheWriteError, .cacheInvalidData, .cacheStorageError, .dataSourceShutdown,
    .dataSourceInvalidData, .configInvalidUrl, .configInvalidInterval, .configInvalidMobileKey,
    .configInvalidPollingInterval, .configInvalidReconnectDelay]

/-- The name under which a code is shown. -/
def name : ErrorCode → String
  | .initFailed => "INIT_FAILED"
  | .networkError => "NETWORK_ERROR"
  | .networkTimeout => "NETWORK_TIMEOUT"
  | .httpBadRequest => "HTTP_BAD_REQUEST"
  | .httpUnauthorized => "HTTP_UNAUTHORIZED"
  | .httpForbidden => "HTTP_FORBIDDEN"
  | .httpNotFound => "HTTP_NOT_FOUND"
  | .httpRateLimited => "HTTP_RATE_LIMITED"
  | .httpServerError => "HTTP_SERVER_ERROR"
  | .httpInvalidResponse => "HTTP_INVALID_RESPONSE"
  | .cacheReadError => "CACHE_READ_ERROR"
  | .cacheWriteError => "CACHE_WRITE_ERROR"
  | .cacheInvalidData => "CACHE_INVALID_DATA"
  | .cacheStorageError => "CACHE_STORAGE_ERROR"
  | .dataSourceShutdown => "DATA_SOURCE_SHUTDOWN"
  | .dataSourceInvalidData => "DATA_SOURCE_INVALID_DATA"
  | .configInvalidUrl => "CONFIG_INVALID_URL"
  | .configInvalidInterval => "CONFIG_INVALID_INTERVAL"
  | .configInvalidMobileKey => "CONFIG_INVALID_MOBILE_KEY"
  | .configInvalidPollingInterval => "CONFIG_INVALID_POLLING_INTERVAL"
  | .configInvalidReconnectDelay => "CONFIG_INVALID_RECONNECT_DELAY"

/-- The code with a given name. -/
def ofName? (name : String) : Option ErrorCode :=
  all.find? (·.name = name)

/-- Whether trying again may succeed. -/
def isRecoverable : ErrorCode → Bool
  | .networkError | .networkTimeout | .httpBadRequest | .httpRateLimited | .httpServerError
  | .httpInvalidResponse | .cacheReadError | .cacheWriteError | .cacheInvalidData
  | .cacheStorageError | .dataSourceInvalidData => true
  | _ => false

/-- Whether the options of the client are at fault. -/
def isConfig : ErrorCode → Bool
  | .configInvalidUrl | .configInvalidInterval | .configInvalidMobileKey
  | .configInvalidPollingInterval | .configInvalidReconnectDelay => true
  | _ => false

/-- The code closest to a status of an HTTP response. -/
def ofStatus (status : Nat) : ErrorCode :=
  match status with
  | 400 => .httpBadRequest
  | 401 => .httpUnauthorized
  | 403 => .httpForbidden
  | 404 => .httpNotFound
  | 408 => .networkTimeout
  | 429 => .httpRateLimited
  | _ => if 500 ≤ status ∧ status ≤ 599 then .httpServerError else .httpInvalidResponse

end ErrorCode

/-- An error that ends an operation of the client. -/
structure ClientError where
  code : ErrorCode
  message : String
  /-- The text of the error behind this one. -/
  source : Option String := none
deriving DecidableEq, Repr

def ClientError.display (e : ClientError) : String :=
  "[" ++ e.code.name ++ "] " ++ e.message

end LiveFlags
