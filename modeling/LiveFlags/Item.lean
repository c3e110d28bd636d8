import LiveFlags.Json.Record
import LiveFlags.Json.Printer

/-!
# Flag items

An `Item` is the outcome of one flag for the current identity: its value, and a version that grows
with every change of the flag. A *tombstone* is an item that is marked as deleted; it remembers the
version of the deletion and reads as `null`.
-/

namespace LiveFlags

/-- The outcome of one flag for one identity. -/
structure Item where
  key : String
  version : Nat
  value : Json := .null
  variation : Option Nat := none
  reason : Option Json := none
  trackEvents : Bool := false
  trackReason : Bool := false
  debugUntil : Option Instant := none
  deleted : Bool := false
deriving DecidableEq, Repr, Inhabited

namespace Item

/-- Records that a flag was removed at a version. -/
def tombstone (key : String) (version : Nat) : Item :=
  { key, version, deleted := true }

/-- Whether the item is no tombstone. -/
def isLive (item : Item) : Bool :=
  !item.deleted

/-- The value as readers see it: a tombstone reads as `null`. -/
def visible (item : Item) : Json :=
  if item.deleted then .null else item.value

/-! ### Wire form -/

/-- The wire form, members in a fixed order; optional ones only when they are set. -/
def toJson (item : Item) : Json :=
  .obj ([("key", .str item.key), ("version", .int item.version), ("value", item.value)] ++
    (item.variation.map fun v : Nat => ("variation", Json.int v)).toList ++
    (item.reason.map fun r => ("reason", r)).toList ++
    (if item.trackEvents then [("trackEvents", .bool true)] else []) ++
    (if item.trackReason then [("trackReason", .bool true)] else []) ++
    (item.debugUntil.map fun t => ("debugUntil", Json.int t.toMillis)).toList ++
    (if item.deleted then [("deleted", .bool true)] else []))

/-- The fields of an item read so far. -/
structure Draft where
  key : Option String := none
  version : Option Nat := none
  value : Option Json := none
  variation : Option (Option Nat) := none
  reason : Option (Option Json) := none
  trackEvents : Option Bool := none
  trackReason : Option Bool := none
  debugUntil : Option (Option Instant) := none
  deleted : Option Bool := none

open Json in
/-- The fields of an item on the wire. Only the version has to be there. -/
def record : Record Draft where
  name := "Item"
  fields := [
    { name := "key", optional := true, droppable := true, isSet := (·.key.isSome),
      read := fun _ d => return { d with key := ← readText "a string" } },
    { name := "version", optional := false, droppable := false, isSet := (·.version.isSome),
      read := fun _ d => return { d with version := ← readUnsigned 64 } },
    { name := "value", optional := true, droppable := true, isSet := (·.value.isSome),
      read := fun depth d => return { d with value := ← readValue depth } },
    { name := "variation", optional := true, droppable := true, isSet := (·.variation.isSome),
      read := fun _ d => return { d with variation := some (← readOptional (readUnsigned 32)) } },
    { name := "reason", optional := true, droppable := true, isSet := (·.reason.isSome),
      read := fun depth d => return { d with reason := some (← readOptional (readValue depth)) } },
    { name := "trackEvents", optional := true, droppable := true, isSet := (·.trackEvents.isSome),
      read := fun _ d => return { d with trackEvents := ← readBool } },
    { name := "trackReason", optional := true, droppable := true, isSet := (·.trackReason.isSome),
      read := fun _ d => return { d with trackReason := ← readBool } },
    { name := "debugUntil", optional := true, droppable := true, isSet := (·.debugUntil.isSome),
      read := fun _ d => return { d with debugUntil := some (← readOptional readTimestamp) } },
    { name := "deleted", optional := true, droppable := true, isSet := (·.deleted.isSome),
      read := fun _ d => return { d with deleted := ← readBool } }]

/-- The item of a complete draft. -/
def Draft.finish (draft : Draft) : Item where
  key := draft.key.getD ""
  version := draft.version.getD 0
  value := draft.value.getD .null
  variation := draft.variation.getD none
  reason := draft.reason.getD none
  trackEvents := draft.trackEvents.getD false
  trackReason := draft.trackReason.getD false
  debugUntil := draft.debugUntil.getD none
  deleted := draft.deleted.getD false

/-- Reads an item; `depth` more containers may be opened. -/
def read (depth : Nat) : Json.Reader Item :=
  return (← record.read depth {}).finish

/-- Reads a text that holds one item. -/
def decode (text : String) : Except Json.Fault Item :=
  Json.decode (read Json.deepest) text

end Item

end LiveFlags
