import LiveFlags.Storage.Memory

/-!
# Reliable storages

A storage is *reliable* if it never fails and keeps what is written: to read does not change what
can be read, and to write changes what stands in one place and nothing else. Where the storage
behind a cache is reliable, the cache is a function of the texts in it.

The storage in memory is reliable.
-/

namespace LiveFlags

/-- Storages that never fail and keep what is written. -/
class ReliableStorage (σ : Type) [Storage σ] where
  /-- The text under a namespace and a key. -/
  text? : σ → String → String → Option String
  get_eq (s : σ) (space key : String) : (Storage.get s space key).1 = .ok (text? s space key)
  text?_get (s : σ) (space key : String) : text? (Storage.get s space key).2 = text? s
  set_eq (s : σ) (space key : String) (text : Option String) :
    (Storage.set s space key text).1 = .ok ()
  text?_set (s : σ) (space key : String) (text : Option String) (space' key' : String) :
    text? (Storage.set s space key text).2 space' key' =
      if space' = space ∧ key' = key then text else text? s space' key'

namespace MemoryStorage

theorem get?_set (m : MemoryStorage) (space key : String) (text : Option String)
    (space' key' : String) :
    (m.set space key text).get? space' key' =
      if space' = space ∧ key' = key then text else m.get? space' key' := by
  have hplace : placeOrder (space, key) (space', key') = .eq ↔ space' = space ∧ key' = key := by
    rw [Std.LawfulEqCmp.compare_eq_iff_eq, Prod.mk.injEq, eq_comm, eq_comm (a := key)]
  cases text with
  | none => simp [set, get?, Std.ExtTreeMap.getElem?_erase, hplace]
  | some text => simp [set, get?, Std.ExtTreeMap.getElem?_insert, hplace]

instance : ReliableStorage MemoryStorage where
  text? := get?
  get_eq _ _ _ := rfl
  text?_get _ _ _ := rfl
  set_eq _ _ _ _ := rfl
  text?_set := get?_set

theorem get?_empty (space key : String) : (∅ : MemoryStorage).get? space key = none :=
  Std.ExtTreeMap.getElem?_empty

end MemoryStorage

end LiveFlags
