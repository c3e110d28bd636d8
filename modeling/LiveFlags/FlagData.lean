import LiveFlags.Cache
import LiveFlags.ItemStore
import LiveFlags.Notifier

/-!
# The flags of the current identity

`FlagData` ties together the items of the current identity, the cache and the observers. An update
that is addressed to the current identity is applied to the items, then the new items are saved,
then observers hear of the changes. A late snapshot for another identity is saved for a later switch
and shows nowhere else; a late item for another identity is dropped.

A switch of the identity serves what the cache remembers, and observers hear of each flag that
differs between the two identities.
-/

namespace LiveFlags

/-- The flags of the current identity. -/
structure FlagData (σ : Type) where
  identity : Identity
  store : ItemStore
  cache : Cache σ
  notifier : Notifier := {}

namespace FlagData

variable {σ : Type}

def get? (d : FlagData σ) (key : String) : Option Item :=
  d.store.get? key

def values (d : FlagData σ) : Std.ExtTreeMap String Json :=
  d.store.values

def snapshot (d : FlagData σ) : Snapshot :=
  d.store.snapshot

/-- Whether an update is addressed to the current identity. -/
def isFor (d : FlagData σ) (identity : Identity) : Bool :=
  d.identity.same identity

/-! ### Steps of an update -/

/-- Applies a snapshot to the items. -/
def applySnapshot (d : FlagData σ) (snapshot : Snapshot) : FlagData σ × List Change :=
  let (store, changes) := d.store.init snapshot
  ({ d with store }, changes)

/-- Applies an item if it is newer than the stored one. -/
def applyItem (d : FlagData σ) (item : Item) : Option (FlagData σ × List Change) :=
  (d.store.upsert item).map fun (store, changes) => ({ d with store }, changes)

/-- Tells the observers. -/
def announce (d : FlagData σ) (changes : List Change) : FlagData σ :=
  { d with notifier := Notifier.notify d.notifier changes }

variable [Storage σ]

/-- Saves a snapshot for an identity. -/
def persist (d : FlagData σ) (identity : Identity) (snapshot : Snapshot) (now : Int) : FlagData σ :=
  { d with cache := d.cache.saveSnapshot identity snapshot now }

/-! ### Operations -/

/-- Starts with what the cache remembers for an identity. -/
def mount (identity : Identity) (cache : Cache σ) (now : Int) : FlagData σ :=
  match cache.loadSnapshot identity now with
  | (some snapshot, cache) => { identity, store := .ofSnapshot snapshot, cache }
  | (none, cache) => { identity, store := ∅, cache }

/-- Makes an identity the current one, and tells whether the cache remembers it. -/
def switch (d : FlagData σ) (identity : Identity) (now : Int) : Bool × FlagData σ :=
  let (cached, cache) := d.cache.loadSnapshot identity now
  let snapshot := cached.getD ∅
  let changes := Change.between d.snapshot.items snapshot.items
  (cached.isSome,
    ({ d with identity, store := .ofSnapshot snapshot, cache }).announce changes)

/-- Takes a snapshot that is addressed to an identity. -/
def init (d : FlagData σ) (identity : Identity) (snapshot : Snapshot) (now : Int) : FlagData σ :=
  if d.isFor identity then
    let (d, changes) := d.applySnapshot snapshot
    (d.persist identity d.snapshot now).announce changes
  else d.persist identity snapshot now

/-- Takes an item that is addressed to an identity. -/
def upsert (d : FlagData σ) (identity : Identity) (item : Item) (now : Int) : FlagData σ :=
  if d.isFor identity then
    match d.applyItem item with
    | some (d, changes) => (d.persist identity d.snapshot now).announce changes
    | none => d
  else d

end FlagData

end LiveFlags
