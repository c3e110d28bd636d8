import LiveFlags.Storage.Basic
import Std.Data.ExtTreeMap

/-!
# Storage in memory

A map from pairs of a namespace and a key to texts. It never fails.
-/

namespace LiveFlags

/-- The order of places: by namespace, then by key. -/
def placeOrder : String × String → String × String → Ordering :=
  compareLex (compareOn Prod.fst) (compareOn Prod.snd)

instance : Std.TransCmp placeOrder :=
  inferInstanceAs (Std.TransCmp (compareLex (compareOn Prod.fst) (compareOn Prod.snd)))

instance : Std.LawfulEqCmp placeOrder where
  compare_self {a} := show placeOrder a a = .eq from Std.ReflCmp.compare_self
  eq_of_compare {a b} h := by
    have h := Ordering.then_eq_eq.1 (show (compare a.1 b.1).then (compare a.2 b.2) = .eq from h)
    exact Prod.ext (Std.LawfulEqCmp.eq_of_compare h.1) (Std.LawfulEqCmp.eq_of_compare h.2)

/-- The texts of a storage by namespace and key. -/
structure MemoryStorage where
  texts : Std.ExtTreeMap (String × String) String placeOrder := ∅
deriving Inhabited

namespace MemoryStorage

instance : EmptyCollection MemoryStorage := ⟨{}⟩

def get? (m : MemoryStorage) (space key : String) : Option String :=
  m.texts[(space, key)]?

def set (m : MemoryStorage) (space key : String) : Option String → MemoryStorage
  | some text => ⟨m.texts.insert (space, key) text⟩
  | none => ⟨m.texts.erase (space, key)⟩

def size (m : MemoryStorage) : Nat :=
  m.texts.size

instance : Storage MemoryStorage where
  get m space key := (.ok (m.get? space key), m)
  set m space key text := (.ok (), m.set space key text)

end MemoryStorage

end LiveFlags
