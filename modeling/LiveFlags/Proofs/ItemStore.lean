import LiveFlags.Proofs.Change
import Mathlib.Data.List.Induction

/-!
# What a store tells of its updates

A store tells its changes in two ways: a snapshot is compared with all items, an item only with the
one in whose place it comes. Either way the changes are exactly those of what readers see.
-/

namespace LiveFlags

namespace Snapshot

theorem getElem?_rekeyed (s : Snapshot) (key : String) :
    s.rekeyed.items[key]? = s.items[key]?.map fun item => { item with key } :=
  Std.ExtTreeMap.getElem?_map

theorem wellKeyed_rekeyed (s : Snapshot) : s.rekeyed.WellKeyed := by
  intro key item h
  rw [getElem?_rekeyed, Option.map_eq_some_iff] at h
  obtain ⟨item, -, rfl⟩ := h
  rfl

/-- Observers do not look at the keys inside the items. -/
theorem alike_rekeyed (s : Snapshot) (key : String) :
    Change.Alike s.rekeyed.items[key]? s.items[key]? := by
  rw [getElem?_rekeyed]
  cases s.items[key]? <;> exact ⟨rfl, rfl⟩

end Snapshot

namespace ItemStore

open Change

/-! ### What readers see -/

theorem alike_get? (s : ItemStore) (key : String) : Alike s.items[key]? (s.get? key) :=
  alike_filter s.items[key]?

theorem get?_eq_some_iff {s : ItemStore} {key : String} {item : Item} :
    s.get? key = some item ↔ s.items[key]? = some item ∧ item.isLive = true := by
  simp [get?, Option.filter_eq_some_iff]

theorem mem_live {s : ItemStore} {key : String} {item : Item} :
    (key, item) ∈ s.live ↔ s.get? key = some item := by
  simp [live, get?_eq_some_iff, Std.ExtTreeMap.mem_toList_iff_getElem?_eq_some]

/-- No key is listed twice among the live items. -/
theorem distinct_live (s : ItemStore) : s.live.Pairwise (·.1 ≠ ·.1) := by
  refine List.Pairwise.filter _ (Std.ExtTreeMap.distinct_keys_toList.imp fun hne heq => hne ?_)
  exact Std.compare_eq_iff_eq.2 heq

/-- The visible value of a live item is the value it carries. -/
theorem visible_get? (s : ItemStore) (key : String) :
    visible (s.get? key) = ((s.get? key).map Item.value).getD .null := by
  cases h : s.get? key with
  | none => rfl
  | some item =>
    have hlive : item.deleted = false := by
      simpa [Item.isLive] using (get?_eq_some_iff.1 h).2
    simp [visible, Item.visible, hlive]

/-! ### What is told -/

/-- Putting a set of items in the place of another is told exactly. -/
theorem reports_of_between (old new : ItemStore) :
    Reports old.get? new.get? (between old.items new.items) :=
  (reports_between old.items new.items).congr old.alike_get? new.alike_get?

theorem reports_init (s : ItemStore) (snapshot : Snapshot) :
    Reports s.get? (s.init snapshot).1.get? (s.init snapshot).2 :=
  reports_of_between s (ofSnapshot snapshot)

/-- An item that was taken is told exactly, a tombstone as well. -/
theorem reports_upsert {s s' : ItemStore} {item : Item} {changes : List Change}
    (h : s.upsert item = some (s', changes)) : Reports s.get? s'.get? changes := by
  simp only [upsert, Option.ite_none_right_eq_some, Option.some.injEq, Prod.mk.injEq] at h
  obtain ⟨-, rfl, rfl⟩ := h
  have hraw : Reports (fun key => s.items[key]?)
      (fun key => (s.items.insert item.key item)[key]?)
      (ofReplaced? item.key s.items[item.key]? item).toList := by
    refine reports_ofReplaced? Std.ExtTreeMap.getElem?_insert_self fun key hne => ?_
    rw [Std.ExtTreeMap.getElem?_insert, if_neg fun heq => hne (Std.compare_eq_iff_eq.1 heq).symm]
  exact hraw.congr s.alike_get? (ItemStore.mk _).alike_get?

end ItemStore

end LiveFlags
