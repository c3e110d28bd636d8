import LiveFlags.Error.Source
import LiveFlags.Error.Storage
import LiveFlags.Identity
import LiveFlags.Snapshot
import LiveFlags.Storage.Basic

/-!
# The cache of flags

A `Cache` remembers the flags of several identities in a storage: one text for each identity under
its cache key, and an index of the cache keys in the order of their last use. With a capacity `n`
above zero at most `n` identities are remembered, and the one that was not used for the longest time
has to go first; a capacity of zero turns the cache off, and a negative one sets no limit.

The cache is a help and never an obstacle: a failure of the storage ends the operation at hand at
most, and is reported for the status of the connection. Reports wait in the cache until they are
collected.
-/

namespace LiveFlags

/-- An identity in the index. -/
structure CacheEntry where
  key : String
  /-- When the identity was last used, in milliseconds after the epoch. -/
  timestamp : Int
deriving DecidableEq, Repr

namespace CacheEntry

def toJson (e : CacheEntry) : Json :=
  .obj [("key", .str e.key), ("timestamp", .int e.timestamp)]

/-- The fields of an entry read so far. -/
structure Draft where
  key : Option String := none
  timestamp : Option Int := none

open Json in
/-- The fields of an entry in the stored index. -/
def record : Record Draft where
  name := "IndexEntry"
  fields := [
    { name := "key", optional := false, droppable := false, isSet := (·.key.isSome),
      read := fun _ d => return { d with key := ← readText "a string" } },
    { name := "timestamp", optional := false, droppable := false, isSet := (·.timestamp.isSome),
      read := fun _ d => return { d with timestamp := ← readSigned } }]

/-- Reads an entry; `depth` more containers may be opened. -/
def read (depth : Nat) : Json.Reader CacheEntry :=
  return (fun d : Draft => ⟨d.key.getD "", d.timestamp.getD 0⟩) (← record.read depth {})

/-- The text of an index. -/
def encodeIndex (entries : List CacheEntry) : String :=
  (Json.arr (entries.map toJson)).text

/-- Reads the text of an index. -/
def decodeIndex (text : String) : Except Json.Fault (List CacheEntry) :=
  Json.decode (Json.readSequence Json.deepest read) text

end CacheEntry

/-- What the cache was doing when the storage failed. -/
inductive CacheOperation where
  | save
  | evict
  | load
  | loadIndex
  | saveIndex
  | decode
deriving DecidableEq, Repr

def CacheOperation.name : CacheOperation → String
  | .save => "save"
  | .evict => "evict"
  | .load => "load"
  | .loadIndex => "load index"
  | .saveIndex => "save index"
  | .decode => "decode"

/-- Whether an operation reads or writes. -/
def CacheOperation.access : CacheOperation → Access
  | .save | .evict | .saveIndex => .write
  | .load | .loadIndex | .decode => .read

/-- A failure of the storage behind a cache. -/
structure CacheFailure where
  operation : CacheOperation
  error : StorageError
deriving DecidableEq, Repr

def CacheFailure.message (f : CacheFailure) : String :=
  "[" ++ (f.error.code f.operation.access).name ++ "] persistent cache " ++ f.operation.name ++
    " failed: " ++ f.error.message

/-- How a failure is reported. -/
def CacheFailure.toSourceError (f : CacheFailure) : SourceError :=
  .store f.message

/-- The flags of several identities in a storage. -/
structure Cache (σ : Type) where
  storage : σ
  /-- The name from which the namespaces of the cache are made. -/
  name : String
  capacity : Int
  /-- The remembered identities, the least recently used one first. -/
  index : List CacheEntry := []
  /-- Failures that have not been collected yet, oldest first. -/
  failures : List CacheFailure := []

namespace Cache

variable {σ : Type}

/-- Whether the cache is turned on. -/
def isEnabled (c : Cache σ) : Bool :=
  c.capacity ≠ 0

/-- The namespace of the flags. -/
def dataSpace (c : Cache σ) : String :=
  c.name ++ "_flags"

/-- The namespace of the index. -/
def indexSpace (c : Cache σ) : String :=
  c.name ++ "_index"

/-- The key of the index in its namespace. -/
def indexKey : String := "index"

/-- The cache keys of the remembered identities, the least recently used one first. -/
def cachedIdentities (c : Cache σ) : List String :=
  c.index.map (·.key)

/-! ### Steps -/

/-- Reports a failure. -/
def report (c : Cache σ) (operation : CacheOperation) (error : StorageError) : Cache σ :=
  { c with failures := c.failures ++ [⟨operation, error⟩] }

/-- An index in which a cache key is the most recently used one. -/
def touched (index : List CacheEntry) (key : String) (now : Int) : List CacheEntry :=
  index.filter (·.key != key) ++ [⟨key, now⟩]

/-- How many identities are remembered beyond the capacity. -/
def excess (c : Cache σ) : Nat :=
  if c.capacity < 0 then 0 else c.index.length - c.capacity.toNat

variable [Storage σ]

/-- Reads from the storage. -/
def fetch (c : Cache σ) (space key : String) : Except StorageError (Option String) × Cache σ :=
  let (result, storage) := Storage.get c.storage space key
  (result, { c with storage })

/-- Writes to the storage. -/
def put (c : Cache σ) (space key : String) (text : Option String) :
    Except StorageError Unit × Cache σ :=
  let (result, storage) := Storage.set c.storage space key text
  (result, { c with storage })

/-- Writes to the storage as part of an operation, and reports a failure. -/
def putOrReport (c : Cache σ) (operation : CacheOperation) (space key : String)
    (text : Option String) : Cache σ :=
  match c.put space key text with
  | (.ok _, c) => c
  | (.error e, c) => c.report operation e

/-- Stores the index. -/
def writeIndex (c : Cache σ) : Cache σ :=
  c.putOrReport .saveIndex c.indexSpace indexKey (some (CacheEntry.encodeIndex c.index))

/-- Removes the flags of an identity that is no longer remembered. -/
def evict (c : Cache σ) (key : String) : Cache σ :=
  c.putOrReport .evict c.dataSpace key none

/-- Forgets the identities beyond the capacity, the least recently used one first. -/
def prune (c : Cache σ) : Cache σ :=
  let evicted := (c.index.take c.excess).map (·.key)
  evicted.foldl evict { c with index := c.index.drop c.excess }

/-- Reads the index from the storage. -/
def readIndex (c : Cache σ) : Cache σ :=
  match c.fetch c.indexSpace indexKey with
  | (.error e, c) => c.report .loadIndex e
  | (.ok none, c) => c
  | (.ok (some text), c) =>
    match CacheEntry.decodeIndex text with
    | .ok index => { c with index }
    | .error fault => c.report .loadIndex (.ofFault fault)

/-! ### Operations -/

/-- Opens a cache and reads its index. -/
def mount (storage : σ) (name : String) (capacity : Int) : Cache σ :=
  let c : Cache σ := { storage, name, capacity }
  if c.isEnabled then c.readIndex else c

/-- Remembers a text for an identity. -/
def save (c : Cache σ) (identity : Identity) (text : String) (now : Int) : Cache σ :=
  if !c.isEnabled then c
  else
    match c.put c.dataSpace identity.cacheKey (some text) with
    | (.error e, c) => c.report .save e
    | (.ok _, c) => ({ c with index := touched c.index identity.cacheKey now }).prune.writeIndex

/-- The text that is remembered for an identity. -/
def load (c : Cache σ) (identity : Identity) (now : Int) : Option String × Cache σ :=
  if !c.isEnabled then (none, c)
  else
    match c.fetch c.dataSpace identity.cacheKey with
    | (.error e, c) => (none, c.report .load e)
    | (.ok none, c) => (none, c)
    | (.ok (some text), c) =>
      (some text, ({ c with index := touched c.index identity.cacheKey now }).writeIndex)

/-- Remembers a snapshot for an identity. -/
def saveSnapshot (c : Cache σ) (identity : Identity) (snapshot : Snapshot) (now : Int) : Cache σ :=
  c.save identity snapshot.encode now

/-- The snapshot that is remembered for an identity. A text that cannot be read counts as none. -/
def loadSnapshot (c : Cache σ) (identity : Identity) (now : Int) : Option Snapshot × Cache σ :=
  match c.load identity now with
  | (none, c) => (none, c)
  | (some text, c) =>
    match Snapshot.decode text with
    | .ok snapshot => (some snapshot.rekeyed, c)
    | .error fault => (none, c.report .decode (.ofFault fault))

omit [Storage σ] in
/-- Takes the reports out of the cache. -/
def collect (c : Cache σ) : List SourceError × Cache σ :=
  (c.failures.map CacheFailure.toSourceError, { c with failures := [] })

end Cache

end LiveFlags
