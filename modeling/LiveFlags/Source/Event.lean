import LiveFlags.Error.Source
import LiveFlags.Snapshot

/-!
# Events of a stream

An event has a name and a JSON payload. `put` carries a whole snapshot, `patch` one item and
`delete` the key of an item that is gone; `ping` only says that there is something new to fetch.
Events of other names are passed over. The items of a `put` take the keys under which they stand,
and a `patch` has to name its key.
-/

namespace LiveFlags

/-- A message of a stream. -/
inductive StreamEvent where
  | put (snapshot : Snapshot)
  | patch (item : Item)
  | delete (key : String) (version : Nat)
  | ping

namespace StreamEvent

/-- The fields of a deletion read so far. -/
structure Deletion where
  key : Option String := none
  version : Option Nat := none

open Json in
/-- The fields of a deletion on the wire. -/
def deletion : Record Deletion where
  name := "DeletePayload"
  fields := [
    { name := "key", optional := false, droppable := false, isSet := (·.key.isSome),
      read := fun _ d => return { d with key := ← readText "a string" } },
    { name := "version", optional := false, droppable := false, isSet := (·.version.isSome),
      read := fun _ d => return { d with version := ← readUnsigned 64 } }]

/-- Reads the event that a deletion makes. -/
def readDeletion : Json.Reader StreamEvent :=
  return (fun d : Deletion => .delete (d.key.getD "") (d.version.getD 0))
    (← deletion.read Json.deepest {})

/-- The payload of an event cannot be read. -/
def unreadable (name : String) (fault : Json.Fault) : SourceError :=
  .invalidData ("bad " ++ name ++ " event: " ++ fault.message)

/-- A `patch` has to say which item it replaces. -/
def ofPatch (item : Item) : Except SourceError StreamEvent :=
  if item.key = "" then .error (.invalidData "patch event without key") else .ok (.patch item)

/-- The event with a name and a payload; nothing for a name that has no meaning here. -/
def parse (name data : String) : Except SourceError (Option StreamEvent) := do
  match name with
  | "put" => return some (.put (← (Snapshot.decode data).mapError (unreadable name)).rekeyed)
  | "patch" => return some (← ofPatch (← (Item.decode data).mapError (unreadable name)))
  | "delete" => return some (← (Json.decode readDeletion data).mapError (unreadable name))
  | "ping" => return some .ping
  | _ => return none

end StreamEvent

end LiveFlags
