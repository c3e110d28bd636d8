import LiveFlags.Json.Record
import LiveFlags.Json.Printer
import Std.Data.ExtTreeMap

/-!
# Identities

An `Identity` is the subject whose flags are synchronised: a key, a mark for anonymous ones and
named attributes. Its *cache key* names the place of its data in the cache; attributes take no part
in it, since flags are evaluated for each key. Two identities are the same only if they agree in
all three parts.
-/

namespace LiveFlags

/-- The subject whose flags are synchronised. -/
structure Identity where
  key : String
  anonymous : Bool := false
  attributes : Std.ExtTreeMap String Json := ∅
deriving Inhabited

namespace Identity

/-- What stands before the key of an anonymous identity in its cache key. -/
def anonymousMark : String := "anon:"

/-- The key under which the data of the identity is kept, which is also how it is displayed. -/
def cacheKey (identity : Identity) : String :=
  if identity.anonymous then anonymousMark ++ identity.key else identity.key

/-- Equality of identities, attributes included. -/
def same (a b : Identity) : Bool :=
  a.key == b.key && a.anonymous == b.anonymous &&
    Json.sameMembers a.attributes.toList b.attributes.toList

/-- Adds or replaces an attribute. -/
def withAttribute (identity : Identity) (name : String) (value : Json) : Identity :=
  { identity with attributes := identity.attributes.insert name value }

/-! ### Wire form -/

/-- The wire form leaves out a mark that is off and attributes that are empty. -/
def toJson (identity : Identity) : Json :=
  .obj ([("key", .str identity.key)] ++
    (if identity.anonymous then [("anonymous", .bool true)] else []) ++
    (if identity.attributes.isEmpty then []
      else [("attributes", .obj identity.attributes.toList)]))

/-- The fields of an identity read so far. -/
structure Draft where
  key : Option String := none
  anonymous : Option Bool := none
  attributes : Option (Std.ExtTreeMap String Json) := none

open Json in
/-- Reads attributes: any values under any names, the last of equal names counting. -/
def readAttributes (depth : Nat) : Reader (Std.ExtTreeMap String Json) :=
  readMap depth (fun depth name all => return all.insert name (← readValue depth)) ∅

open Json in
/-- The fields of an identity on the wire. -/
def record : Record Draft where
  name := "Identity"
  fields := [
    { name := "key", optional := false, droppable := false, isSet := (·.key.isSome),
      read := fun _ d => return { d with key := ← readText "a string" } },
    { name := "anonymous", optional := true, droppable := true, isSet := (·.anonymous.isSome),
      read := fun _ d => return { d with anonymous := ← readBool } },
    { name := "attributes", optional := true, droppable := true, isSet := (·.attributes.isSome),
      read := fun depth d => return { d with attributes := ← readAttributes depth } }]

/-- The identity of a complete draft. -/
def Draft.finish (draft : Draft) : Identity where
  key := draft.key.getD ""
  anonymous := draft.anonymous.getD false
  attributes := draft.attributes.getD ∅

/-- Reads an identity; `depth` more containers may be opened. -/
def read (depth : Nat) : Json.Reader Identity :=
  return (← record.read depth {}).finish

/-- Reads a text that holds one identity. -/
def decode (text : String) : Except Json.Fault Identity :=
  Json.decode (read Json.deepest) text

end Identity

end LiveFlags
