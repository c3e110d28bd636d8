import LiveFlags.Item

/-!
# Changes of visible values

A `Change` tells observers of a flag what they saw before and what they see now. Replacing an item
by a newer one is a change if the visible value differs, or if the flag goes away; a new version
with the same value is none.
-/

namespace LiveFlags

/-- What observers of one flag see before and after an update. -/
structure Change where
  key : String
  oldValue : Json
  newValue : Json
  /-- Whether the flag is gone. -/
  deleted : Bool
deriving DecidableEq, Repr, Inhabited

namespace Change

/-- The visible value of an item that may be absent. -/
def visible (item : Option Item) : Json :=
  (item.map Item.visible).getD .null

/-- Whether there is an item and it is no tombstone. -/
def isLive (item : Option Item) : Bool :=
  item.any Item.isLive

/-- The change that putting `item` in the place of `old` makes. A live item that turns into a
tombstone is always a change, even if its value was `null`. -/
def ofReplaced? (key : String) (old : Option Item) (item : Item) : Option Change :=
  if (visible old).same item.visible && !(item.deleted && isLive old) then none
  else some { key, oldValue := visible old, newValue := item.visible, deleted := item.deleted }

/-- The change that taking `old` away makes. -/
def ofRemoved? (key : String) (old : Item) : Option Change :=
  if old.isLive then some { key, oldValue := old.value, newValue := .null, deleted := true }
  else none

end Change

end LiveFlags
