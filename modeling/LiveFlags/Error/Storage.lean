import LiveFlags.Error.Code
import LiveFlags.Json.Fault

/-!
# Errors of storage backends

A backend fails because the system underneath does, because the stored data cannot be read, or
because it is not there at all. The same failure has one code while reading and one while writing.
-/

namespace LiveFlags

/-- The kinds of input and output failures that the system reports. -/
inductive IoKind where
  | notFound | permissionDenied | connectionRefused | connectionReset | hostUnreachable
  | networkUnreachable | connectionAborted | notConnected | addrInUse | addrNotAvailable
  | networkDown | brokenPipe | alreadyExists | wouldBlock | notADirectory | isADirectory
  | directoryNotEmpty | readOnlyFilesystem | staleNetworkFileHandle | invalidInput | invalidData
  | timedOut | writeZero | storageFull | notSeekable | quotaExceeded | fileTooLarge | resourceBusy
  | executableFileBusy | deadlock | crossesDevices | tooManyLinks | invalidFilename
  | argumentListTooLong | interrupted | unsupported | unexpectedEof | outOfMemory | other
deriving DecidableEq, Repr, Inhabited

namespace IoKind

/-- All kinds with their names. -/
def names : List (IoKind × String) :=
  [(.notFound, "NotFound"), (.permissionDenied, "PermissionDenied"),
    (.connectionRefused, "ConnectionRefused"), (.connectionReset, "ConnectionReset"),
    (.hostUnreachable, "HostUnreachable"), (.networkUnreachable, "NetworkUnreachable"),
    (.connectionAborted, "ConnectionAborted"), (.notConnected, "NotConnected"),
    (.addrInUse, "AddrInUse"), (.addrNotAvailable, "AddrNotAvailable"),
    (.networkDown, "NetworkDown"), (.brokenPipe, "BrokenPipe"),
    (.alreadyExists, "AlreadyExists"), (.wouldBlock, "WouldBlock"),
    (.notADirectory, "NotADirectory"), (.isADirectory, "IsADirectory"),
    (.directoryNotEmpty, "DirectoryNotEmpty"), (.readOnlyFilesystem, "ReadOnlyFilesystem"),
    (.staleNetworkFileHandle, "StaleNetworkFileHandle"), (.invalidInput, "InvalidInput"),
    (.invalidData, "InvalidData"), (.timedOut, "TimedOut"), (.writeZero, "WriteZero"),
    (.storageFull, "StorageFull"), (.notSeekable, "NotSeekable"),
    (.quotaExceeded, "QuotaExceeded"), (.fileTooLarge, "FileTooLarge"),
    (.resourceBusy, "ResourceBusy"), (.executableFileBusy, "ExecutableFileBusy"),
    (.deadlock, "Deadlock"), (.crossesDevices, "CrossesDevices"), (.tooManyLinks, "TooManyLinks"),
    (.invalidFilename, "InvalidFilename"), (.argumentListTooLong, "ArgumentListTooLong"),
    (.interrupted, "Interrupted"), (.unsupported, "Unsupported"),
    (.unexpectedEof, "UnexpectedEof"), (.outOfMemory, "OutOfMemory"), (.other, "Other")]

def name (kind : IoKind) : String :=
  (names.lookup kind).getD "Other"

/-- The kind with a given name; any other name is `other`. -/
def ofName (name : String) : IoKind :=
  ((names.find? (·.2 = name)).map (·.1)).getD .other

end IoKind

/-- A failure of a storage backend. -/
inductive StorageError where
  /-- The system underneath failed. -/
  | io (kind : IoKind) (message : String)
  /-- The stored data cannot be read. -/
  | corrupt (message : String)
  /-- The backend cannot be reached. -/
  | unavailable (message : String)
deriving DecidableEq, Repr

/-- Whether a backend is read or written. -/
inductive Access where
  | read
  | write
deriving DecidableEq, Repr

namespace StorageError

/-- Stored text that is no valid JSON of its kind. -/
def ofFault (fault : Json.Fault) : StorageError :=
  .corrupt fault.message

def message : StorageError → String
  | .io _ m => "storage I/O failed: " ++ m
  | .corrupt m => "stored data is corrupt: " ++ m
  | .unavailable m => "storage unavailable: " ++ m

def code (access : Access) : StorageError → ErrorCode
  | .io _ _ =>
    match access with
    | .read => .cacheReadError
    | .write => .cacheWriteError
  | .corrupt _ => .cacheInvalidData
  | .unavailable _ => .cacheStorageError

/-- The name of the class of the failure. -/
def className : StorageError → String
  | .io kind _ => "io:" ++ kind.name
  | .corrupt _ => "corrupt"
  | .unavailable _ => "unavailable"

end StorageError

end LiveFlags
