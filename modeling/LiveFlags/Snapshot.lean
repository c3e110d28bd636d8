import LiveFlags.Item
import Std.Data.ExtTreeMap

/-!
# Snapshots

A `Snapshot` is the complete set of items of one identity at a point in time, by key. It is *keyed
well* when each item carries the key under which it stands. `ofItems` and `rekeyed` build such
snapshots; one that was only decoded may name other keys inside its items.
-/

namespace LiveFlags

/-- The complete set of items of one identity. -/
structure Snapshot where
  items : Std.ExtTreeMap String Item := ∅
deriving Inhabited

namespace Snapshot

instance : EmptyCollection Snapshot := ⟨{}⟩

instance : DecidableEq Snapshot := fun a b =>
  decidable_of_iff (a.items = b.items)
    ⟨fun h => by cases a; cases b; simp_all, fun h => by rw [h]⟩

/-- The items under their own keys; of equal keys the last one counts. -/
def ofItems (items : List Item) : Snapshot :=
  ⟨items.foldl (fun m item => m.insert item.key item) ∅⟩

/-- Each item gets the key under which it stands. -/
def rekeyed (s : Snapshot) : Snapshot :=
  ⟨s.items.map fun key item => { item with key }⟩

/-- Each item carries the key under which it stands. -/
def WellKeyed (s : Snapshot) : Prop :=
  ∀ (key : String) (item : Item), s.items[key]? = some item → item.key = key

def get? (s : Snapshot) (key : String) : Option Item :=
  s.items[key]?

def size (s : Snapshot) : Nat :=
  s.items.size

def isEmpty (s : Snapshot) : Bool :=
  s.items.isEmpty

/-! ### Wire form -/

/-- An object with one member for each item. -/
def toJson (s : Snapshot) : Json :=
  .obj (s.items.toList.map fun entry => (entry.1, entry.2.toJson))

def encode (s : Snapshot) : String :=
  s.toJson.text

/-- Reads a snapshot; the keys inside the items are kept as they are. -/
def read (depth : Nat) : Json.Reader Snapshot :=
  return ⟨← Json.readMap depth
    (fun depth key items => return items.insert key (← Item.read depth)) ∅⟩

/-- Reads a text that holds one snapshot. -/
def decode (text : String) : Except Json.Fault Snapshot :=
  Json.decode (read Json.deepest) text

end Snapshot

end LiveFlags
