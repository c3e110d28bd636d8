import LiveFlags.Change
import LiveFlags.Snapshot

/-!
# The items of one identity

An `ItemStore` holds the newest known item of each flag, tombstones included. A whole snapshot is
always taken; a single item only if its version is greater than the one that is stored. Both say
which visible values changed.

Readers look through the tombstones: `get?`, `values` and `size` know live items only.
-/

namespace LiveFlags

/-- The newest known item of each flag. -/
structure ItemStore where
  items : Std.ExtTreeMap String Item := ∅
deriving Inhabited

/-- The changes from one set of items to another, by increasing key. -/
def Change.between (old new : Std.ExtTreeMap String Item) : List Change :=
  let replaced := new.toList.filterMap fun (key, item) => ofReplaced? key old[key]? item
  let removed := old.toList.filterMap fun (key, item) =>
    if new.contains key then none else ofRemoved? key item
  (replaced ++ removed).mergeSort (fun a b => a.key ≤ b.key)

namespace ItemStore

instance : EmptyCollection ItemStore := ⟨{}⟩

instance : DecidableEq ItemStore := fun a b =>
  decidable_of_iff (a.items = b.items)
    ⟨fun h => by cases a; cases b; simp_all, fun h => by rw [h]⟩

/-- The items of a snapshot as they are. -/
def ofSnapshot (s : Snapshot) : ItemStore :=
  ⟨s.items⟩

/-- The stored item, which may be a tombstone. -/
def stored? (s : ItemStore) (key : String) : Option Item :=
  s.items[key]?

/-- The live item under a key. -/
def get? (s : ItemStore) (key : String) : Option Item :=
  s.items[key]?.filter Item.isLive

/-- The live items, by key. -/
def live (s : ItemStore) : List (String × Item) :=
  s.items.toList.filter (·.2.isLive)

/-- The values of the live items, under the keys that the items carry. -/
def values (s : ItemStore) : Std.ExtTreeMap String Json :=
  s.live.foldl (fun m entry => m.insert entry.2.key entry.2.value) ∅

/-- All items, tombstones included, each with the key under which it stands. -/
def snapshot (s : ItemStore) : Snapshot :=
  Snapshot.rekeyed ⟨s.items⟩

/-- The number of live items. -/
def size (s : ItemStore) : Nat :=
  s.live.length

def isEmpty (s : ItemStore) : Bool :=
  s.size = 0

/-- Takes a whole snapshot in place of all items. -/
def init (s : ItemStore) (snapshot : Snapshot) : ItemStore × List Change :=
  (ofSnapshot snapshot, Change.between s.items snapshot.items)

/-- Whether an item is newer than what is stored under its key. -/
def accepts (s : ItemStore) (item : Item) : Bool :=
  s.items[item.key]?.all (·.version < item.version)

/-- Takes an item if it is newer than the stored one. There may be no change of its value. -/
def upsert (s : ItemStore) (item : Item) : Option (ItemStore × List Change) :=
  if s.accepts item then
    some (⟨s.items.insert item.key item⟩,
      (Change.ofReplaced? item.key s.items[item.key]? item).toList)
  else none

end ItemStore

end LiveFlags
