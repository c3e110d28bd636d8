import LiveFlags.Proofs.ItemStore
import Mathlib.Data.List.MinMax

/-!
# Stores that were offered the same items

Items arrive in any order, and some of them more than once. A store takes an item if its version is
greater than the one that is stored, so what it holds in the end depends on which items it was
offered, and not on how often or in which order: for each key it is the newest item, or what was
there before if that is as new.

`newest?` names that item without mention of a store, as the first of the items with the greatest
version. Each offer keeps the newer of two items (`stored?_offer_self`), and that operation is
associative, which is why a whole list of offers comes down to the newest of them
(`stored?_offerAll`).

Main statement: `convergent`.
-/

namespace LiveFlags

/-- The newer of two items, the first one if they are as new as each other. -/
def Item.newer (a b : Item) : Item :=
  if a.version < b.version then b else a

instance : Std.Associative Item.newer where
  assoc a b c := by
    unfold Item.newer
    split_ifs <;> first | rfl | omega

/-- To keep the newer item is to replace one that is older. -/
theorem Item.merge_newer_some (old : Option Item) (item : Item) :
    old.merge newer (some item) =
      if old.all (·.version < item.version) then some item else old := by
  cases old with
  | none => rfl
  | some old =>
    simp only [Option.merge, newer, Option.all_some, decide_eq_true_eq]
    split <;> rfl

namespace ItemStore

/-- A store is known by what is stored under each key. -/
theorem ext_stored? {s t : ItemStore} (h : ∀ key, s.stored? key = t.stored? key) : s = t :=
  congrArg ItemStore.mk (Std.ExtTreeMap.ext_getElem? h)

/-! ### Offers -/

/-- The store after it was offered an item, which it may have refused. -/
def offer (s : ItemStore) (item : Item) : ItemStore :=
  match s.upsert item with
  | some (s', _) => s'
  | none => s

/-- The store after it was offered items in order. -/
def offerAll (s : ItemStore) (items : List Item) : ItemStore :=
  items.foldl offer s

theorem accepts_eq (s : ItemStore) (item : Item) :
    s.accepts item = (s.stored? item.key).all (·.version < item.version) :=
  rfl

theorem upsert_eq_none_iff {s : ItemStore} {item : Item} :
    s.upsert item = none ↔ s.accepts item = false := by
  simp [upsert]

theorem stored?_offer (s : ItemStore) (item : Item) (key : String) :
    (s.offer item).stored? key =
      if s.accepts item = true ∧ item.key = key then some item else s.stored? key := by
  cases h : s.accepts item with
  | false => simp [offer, upsert_eq_none_iff.2 h]
  | true =>
    simp only [offer, upsert, h, if_true, true_and, stored?, Std.ExtTreeMap.getElem?_insert,
      Std.compare_eq_iff_eq]

theorem stored?_offer_of_ne (s : ItemStore) {item : Item} {key : String} (h : item.key ≠ key) :
    (s.offer item).stored? key = s.stored? key := by
  simp [stored?_offer, h]

/-- Under the key of an item, an offer keeps the newer one. -/
theorem stored?_offer_self (s : ItemStore) (item : Item) :
    (s.offer item).stored? item.key = (s.stored? item.key).merge Item.newer (some item) := by
  simp [stored?_offer, accepts_eq, Item.merge_newer_some]

theorem offerAll_concat (s : ItemStore) (items : List Item) (item : Item) :
    s.offerAll (items ++ [item]) = (s.offerAll items).offer item :=
  List.foldl_concat ..

/-! ### The newest item -/

/-- The first of the items for a key that carry its greatest version. -/
def newest? (items : List Item) (key : String) : Option Item :=
  (items.filter (·.key = key)).argmax Item.version

theorem newest?_concat_of_ne (items : List Item) {item : Item} {key : String}
    (h : item.key ≠ key) : newest? (items ++ [item]) key = newest? items key := by
  simp [newest?, h]

theorem newest?_concat_self (items : List Item) (item : Item) :
    newest? (items ++ [item]) item.key =
      (newest? items item.key).merge Item.newer (some item) := by
  have hfilter : (items ++ [item]).filter (·.key = item.key) =
      items.filter (·.key = item.key) ++ [item] := by
    simp
  rw [newest?, hfilter, List.argmax_concat, ← newest?]
  cases newest? items item.key with
  | none => rfl
  | some newest =>
    rw [Item.merge_newer_some]
    simp

theorem mem_of_newest? {items : List Item} {key : String} {newest : Item}
    (h : newest? items key = some newest) : newest ∈ items ∧ newest.key = key := by
  simpa using List.argmax_mem h

theorem version_le_of_newest? {items : List Item} {item newest : Item} (hitem : item ∈ items)
    (h : newest? items item.key = some newest) : item.version ≤ newest.version :=
  List.le_of_mem_argmax (by simpa using hitem) h

theorem newest?_eq_none_iff {items : List Item} {key : String} :
    newest? items key = none ↔ ∀ item ∈ items, item.key ≠ key := by
  simp [newest?, List.filter_eq_nil_iff]

/-! ### What a store holds in the end -/

theorem stored?_offerAll (s : ItemStore) (items : List Item) (key : String) :
    (s.offerAll items).stored? key = (s.stored? key).merge Item.newer (newest? items key) := by
  induction items using List.reverseRecOn with
  | nil => cases h : s.stored? key <;> simpa [offerAll, newest?] using h
  | append_singleton items item ih =>
    rw [offerAll_concat]
    by_cases hkey : item.key = key
    · subst hkey
      rw [stored?_offer_self, newest?_concat_self, ih,
        @Std.Associative.assoc _ (Option.merge Item.newer)]
    · rw [stored?_offer_of_ne _ hkey, newest?_concat_of_ne _ hkey, ih]

/-- A stored item gives way to a newer one only. -/
theorem exists_stored?_offerAll {s : ItemStore} {key : String} {old : Item}
    (h : s.stored? key = some old) (items : List Item) :
    ∃ item, (s.offerAll items).stored? key = some item ∧
      (item = old ∨ item ∈ items ∧ item.key = key ∧ old.version < item.version) := by
  rw [stored?_offerAll, h]
  cases hnewest : newest? items key with
  | none => exact ⟨old, rfl, .inl rfl⟩
  | some newest =>
    rw [Item.merge_newer_some]
    split
    · next hnewer =>
      obtain ⟨hmem, hkey⟩ := mem_of_newest? hnewest
      exact ⟨newest, rfl, .inr ⟨hmem, hkey, by simpa using hnewer⟩⟩
    · exact ⟨old, rfl, .inl rfl⟩

/-- An item that was offered is not newer than what is stored then. -/
theorem accepts_offerAll {s : ItemStore} {items : List Item} {item : Item} (h : item ∈ items) :
    (s.offerAll items).accepts item = false := by
  rw [accepts_eq, stored?_offerAll]
  cases hnewest : newest? items item.key with
  | none => exact absurd rfl (newest?_eq_none_iff.1 hnewest item h)
  | some newest =>
    have hle := version_le_of_newest? h hnewest
    rw [Item.merge_newer_some]
    cases hstored : s.stored? item.key with
    | none => simpa using hle
    | some old =>
      split
      · simpa using hle
      · next hold =>
        simp only [Option.all_some, decide_eq_true_eq, decide_eq_false_iff_not] at hold ⊢
        omega

/-! ### Order and repetition -/

/-- Items that agree on key and version are related. -/
def VersionsDecide (r : Item → Item → Prop) (items : List Item) : Prop :=
  ∀ a ∈ items, ∀ b ∈ items, a.key = b.key → a.version = b.version → r a b

/-- The newest of the same items are as new as each other. -/
theorem rel_newest? {r : Item → Item → Prop} {items items' : List Item}
    (hr : VersionsDecide r items) (h : ∀ item, item ∈ items ↔ item ∈ items') (key : String) :
    Option.Rel (fun a b => r a b ∧ a.key = b.key ∧ a.version = b.version)
      (newest? items key) (newest? items' key) := by
  cases ha : newest? items key with
  | none =>
    have hb : newest? items' key = none := by
      rw [newest?_eq_none_iff] at ha ⊢
      exact fun item hitem => ha item ((h item).2 hitem)
    rw [hb]
    exact .none
  | some a =>
    obtain ⟨hmem, rfl⟩ := mem_of_newest? ha
    cases hb : newest? items' a.key with
    | none => exact absurd rfl (newest?_eq_none_iff.1 hb a ((h a).1 hmem))
    | some b =>
      obtain ⟨hmem', hkey⟩ := mem_of_newest? hb
      have hversion : a.version = b.version := by
        refine Nat.le_antisymm (version_le_of_newest? ((h a).1 hmem) hb) ?_
        rw [← hkey] at ha
        exact version_le_of_newest? ((h b).2 hmem') ha
      exact .some ⟨hr a hmem b ((h b).2 hmem') hkey.symm hversion, hkey.symm, hversion⟩

theorem rel_stored?_offerAll {r : Item → Item → Prop} (hrefl : ∀ item, r item item)
    {items items' : List Item} (hr : VersionsDecide r items)
    (h : ∀ item, item ∈ items ↔ item ∈ items') (s : ItemStore) (key : String) :
    Option.Rel r ((s.offerAll items).stored? key) ((s.offerAll items').stored? key) := by
  have hself : Option.Rel r (s.stored? key) (s.stored? key) := by
    cases s.stored? key with
    | none => exact .none
    | some old => exact .some (hrefl old)
  have hnewest := rel_newest? hr h key
  rw [stored?_offerAll, stored?_offerAll]
  generalize newest? items key = a at hnewest
  generalize newest? items' key = b at hnewest
  cases hnewest with
  | none => simpa using hself
  | some hab =>
    obtain ⟨hab, -, hversion⟩ := hab
    rw [Item.merge_newer_some, Item.merge_newer_some, hversion]
    split
    · exact .some hab
    · exact hself

theorem offerAll_eq_of_mem_iff {items items' : List Item} (hr : VersionsDecide Eq items)
    (h : ∀ item, item ∈ items ↔ item ∈ items') (s : ItemStore) :
    s.offerAll items = s.offerAll items' := by
  refine ext_stored? fun key => ?_
  have hstored := rel_stored?_offerAll (fun _ => rfl) hr h s key
  generalize (s.offerAll items).stored? key = a at hstored ⊢
  generalize (s.offerAll items').stored? key = b at hstored ⊢
  cases hstored with
  | none => rfl
  | some hab => rw [hab]

/-! ### The main statement -/

/-- What the items that a store was offered have made of it. -/
structure Convergent (s : ItemStore) (items : List Item) : Prop where
  /-- For each key the newest of the items takes its place, unless the store held one as new before;
  and where no item was offered nothing has changed. -/
  stored : ∀ key, (s.offerAll items).stored? key =
    match newest? items key with
    | some item => if s.accepts item then some item else s.stored? key
    | none => s.stored? key
  /-- If the versions tell the items apart, order and repetition do not count. -/
  order : VersionsDecide Eq items → ∀ items', (∀ item, item ∈ items ↔ item ∈ items') →
    s.offerAll items = s.offerAll items'
  /-- The same holds for any other sense in which items may be told apart. -/
  order_rel : ∀ r : Item → Item → Prop, (∀ item, r item item) → VersionsDecide r items →
    ∀ items', (∀ item, item ∈ items ↔ item ∈ items') → ∀ key,
      Option.Rel r ((s.offerAll items).stored? key) ((s.offerAll items').stored? key)
  /-- A stored item stays, or gives way to one of a greater version. -/
  grows : ∀ key old, s.stored? key = some old → ∃ item,
    (s.offerAll items).stored? key = some item ∧
      (item = old ∨ item ∈ items ∧ item.key = key ∧ old.version < item.version)
  /-- In particular a tombstone stays until there is an item of a greater version. -/
  buried : ∀ key old, s.stored? key = some old → old.deleted = true →
    (∀ item ∈ items, item.key = key → item.version ≤ old.version) →
      (s.offerAll items).stored? key = some old ∧ (s.offerAll items).get? key = none
  /-- An item counts for its own key alone. -/
  untouched : ∀ key, (∀ item ∈ items, item.key ≠ key) →
    (s.offerAll items).stored? key = s.stored? key
  /-- An item that was offered is refused from then on. -/
  settled : ∀ item ∈ items, (s.offerAll items).upsert item = none ∧
    (s.offerAll items).offer item = s.offerAll items

/-- **Stores converge**, whatever they hold at the beginning and whatever they are offered. -/
theorem convergent (s : ItemStore) (items : List Item) : Convergent s items where
  stored key := by
    rw [stored?_offerAll]
    cases hnewest : newest? items key with
    | none => simp
    | some newest =>
      obtain ⟨-, rfl⟩ := mem_of_newest? hnewest
      rw [Item.merge_newer_some]
      rfl
  order hr items' h := offerAll_eq_of_mem_iff hr h s
  order_rel r hrefl hr items' h key := rel_stored?_offerAll hrefl hr h s key
  grows key old h := exists_stored?_offerAll h items
  buried key old h hdeleted hitems := by
    obtain ⟨item, hstored, rfl | ⟨hmem, hkey, hlt⟩⟩ := exists_stored?_offerAll h items
    · refine ⟨hstored, ?_⟩
      unfold stored? at hstored
      simp [get?, hstored, Item.isLive, hdeleted]
    · exact absurd (hitems item hmem hkey) (Nat.not_le_of_lt hlt)
  untouched key h := by
    rw [stored?_offerAll, newest?_eq_none_iff.2 h]
    simp
  settled item h := by
    have haccepts := s.accepts_offerAll h
    exact ⟨upsert_eq_none_iff.2 haccepts, by simp [offer, upsert_eq_none_iff.2 haccepts]⟩

end ItemStore

end LiveFlags
