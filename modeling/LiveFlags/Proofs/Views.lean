import LiveFlags.Proofs.Convergence
import LiveFlags.Proofs.Mirror
import LiveFlags.Proofs.Snapshot
import Mathlib.Data.List.Perm.Subperm
import Mathlib.Data.Set.Card

/-!
# What readers see of a store

A reader can ask for one item, for all values, or for the number of items. Single items are found
under the keys under which they stand, but the values are listed under the keys that the items
carry inside. `ofItems` and `rekeyed` make the two the same, and an item that arrives on its own
stands under the key it carries. A snapshot that was only decoded may name other keys inside its
items, or none, and a store takes it as it is.

The number of live items is right in any case (`counts`). The listing is right exactly if the keys
that the live items carry are a rearrangement of those under which they stand that keeps the values
(`KeysAgree`). This does not depend on the order in which the items are listed, which matters, since
of two items that carry the same key only the last one is seen.

Main statement: `lists_iff_keysAgree`.
-/

namespace LiveFlags

/-- What a store is given. -/
inductive StoreUpdate where
  | snapshot (snapshot : Snapshot)
  | item (item : Item)

namespace ItemStore

/-! ### Given stores -/

/-- Gives a store a snapshot or an item. -/
def take (s : ItemStore) : StoreUpdate → ItemStore
  | .snapshot snapshot => (s.init snapshot).1
  | .item item => s.offer item

/-- The store that began with a snapshot and was given updates. -/
def given (first : Snapshot) (updates : List StoreUpdate) : ItemStore :=
  updates.foldl take (ofSnapshot first)

/-- The snapshot that such a store was given last. -/
def lastGiven (first : Snapshot) (updates : List StoreUpdate) : Snapshot :=
  updates.foldl (fun last update =>
    match update with
    | .snapshot snapshot => snapshot
    | .item _ => last) first

/-- Items that arrive on their own keep a store keyed well. -/
theorem wellKeyed_given {first : Snapshot} {updates : List StoreUpdate}
    (h : (lastGiven first updates).WellKeyed) :
    Snapshot.WellKeyed ⟨(given first updates).items⟩ := by
  induction updates using List.reverseRecOn with
  | nil => exact h
  | append_singleton updates update ih =>
    simp only [given, lastGiven, List.foldl_concat] at h ⊢
    cases update with
    | snapshot snapshot => exact h
    | item item =>
      intro key i hi
      have hcases := (stored?_offer _ item key).symm.trans hi
      split at hcases
      · next hnew =>
        cases hcases
        exact hnew.2
      · exact ih h key i hcases

/-! ### The number of live items -/

/-- The size is that of the set of keys under which a reader finds an item. -/
structure Counts (s : ItemStore) : Prop where
  size : (s.size : ℕ∞) = {key | s.get? key ≠ none}.encard
  isEmpty : s.isEmpty = true ↔ ∀ key, s.get? key = none

theorem mem_keys_live {s : ItemStore} {key : String} :
    key ∈ s.live.map (·.1) ↔ s.get? key ≠ none := by
  rw [List.mem_map, Option.ne_none_iff_exists']
  constructor
  · rintro ⟨⟨key, item⟩, hentry, rfl⟩
    exact ⟨item, mem_live.1 hentry⟩
  · rintro ⟨item, hitem⟩
    exact ⟨(key, item), mem_live.2 hitem, rfl⟩

theorem nodup_keys_live (s : ItemStore) : (s.live.map (·.1)).Nodup :=
  List.pairwise_map.2 s.distinct_live

theorem counts (s : ItemStore) : s.Counts where
  size := by
    have hkeys : {key | s.get? key ≠ none} = ((s.live.map (·.1)).toFinset : Set String) := by
      ext key
      rw [List.coe_toFinset]
      exact mem_keys_live.symm
    rw [hkeys, Set.encard_coe_eq_coe_finsetCard, List.toFinset_card_of_nodup s.nodup_keys_live,
      List.length_map]
    rfl
  isEmpty := by
    have hempty : s.isEmpty = true ↔ s.live.map (·.1) = [] := by
      simp [isEmpty, size]
    rw [hempty, List.eq_nil_iff_forall_not_mem]
    simp only [mem_keys_live, not_not]

/-! ### The listing -/

/-- The values of items that are listed in some order, under the keys that the items carry. -/
def listing (entries : List (String × Item)) : Std.ExtTreeMap String Json :=
  entries.foldl (fun m entry => m.insert entry.2.key entry.2.value) ∅

theorem listing_concat (entries : List (String × Item)) (entry : String × Item) :
    listing (entries ++ [entry]) = (listing entries).insert entry.2.key entry.2.value :=
  List.foldl_concat ..

/-- A key is in the listing if an item carries it. -/
theorem isSome_listing {entries : List (String × Item)} {key : String} :
    (listing entries)[key]?.isSome ↔ key ∈ entries.map (·.2.key) := by
  induction entries using List.reverseRecOn with
  | nil => simp [listing]
  | append_singleton entries entry ih =>
    rw [listing_concat, Std.ExtTreeMap.getElem?_insert]
    split
    · next heq => simp [Std.compare_eq_iff_eq.1 heq]
    · next hne =>
      have hkey : key ≠ entry.2.key := fun heq => hne (Std.compare_eq_iff_eq.2 heq.symm)
      simpa [hkey] using ih

/-- An item that alone carries its key is listed with its value. -/
theorem getElem?_listing {entries : List (String × Item)}
    (hnodup : (entries.map (·.2.key)).Nodup) {entry : String × Item} (h : entry ∈ entries) :
    (listing entries)[entry.2.key]? = some entry.2.value := by
  have hfollow : listing entries = (entries.map addition).foldl Mirror.follow ∅ := by
    rw [List.foldl_map]
    rfl
  have hdistinct : (entries.map addition).Pairwise (·.key ≠ ·.key) := by
    rw [List.pairwise_map]
    exact List.pairwise_map.1 hnodup
  rw [hfollow]
  exact Mirror.getElem?_foldl_follow_of_mem (List.mem_map_of_mem h) hdistinct ∅

/-- Under each key there is the value of the live item under it, and nothing under other keys. -/
def Lists (s : ItemStore) (values : Std.ExtTreeMap String Json) : Prop :=
  ∀ key, values[key]? = (s.get? key).map Item.value

/-- The keys that the live items carry are those under which they stand, in another order perhaps,
but then between items of the same value. -/
structure KeysAgree (s : ItemStore) : Prop where
  perm : (s.live.map (·.2.key)).Perm (s.live.map (·.1))
  value_eq : ∀ key item other, s.get? key = some item → s.get? item.key = some other →
    other.value = item.value

/-- Where the keys agree, the items are listed as they are found, in whatever order. -/
theorem KeysAgree.lists {s : ItemStore} (h : s.KeysAgree) {entries : List (String × Item)}
    (hperm : entries.Perm s.live) : s.Lists (listing entries) := by
  have hcarried : (entries.map (·.2.key)).Perm (s.live.map (·.1)) := (hperm.map _).trans h.perm
  have hnodup : (entries.map (·.2.key)).Nodup := hcarried.nodup_iff.2 s.nodup_keys_live
  intro key
  cases hget : s.get? key with
  | none =>
    have hmissing : key ∉ entries.map (·.2.key) := by
      rw [hcarried.mem_iff, mem_keys_live, hget]
      exact fun hne => hne rfl
    exact Option.not_isSome_iff_eq_none.1 (mt isSome_listing.1 hmissing)
  | some item =>
    -- Some item carries the key, and it has the value of the one that stands there.
    have hkey : key ∈ entries.map (·.2.key) := by
      rw [hcarried.mem_iff, mem_keys_live, hget]
      nofun
    obtain ⟨⟨key', carrier⟩, hentry, rfl⟩ := List.mem_map.1 hkey
    have hcarrier : s.get? key' = some carrier := mem_live.1 (hperm.mem_iff.1 hentry)
    rw [Option.map_some, h.value_eq key' carrier item hcarrier hget]
    exact getElem?_listing hnodup hentry

/-- If the items are listed as they are found, in whatever order, the keys agree. -/
theorem Lists.keysAgree {s : ItemStore} {entries : List (String × Item)}
    (hperm : entries.Perm s.live) (h : s.Lists (listing entries)) : s.KeysAgree := by
  have hmem (key : String) : key ∈ entries.map (·.2.key) ↔ key ∈ s.live.map (·.1) := by
    rw [← isSome_listing, h key, mem_keys_live, Option.isSome_map, Option.isSome_iff_ne_none]
  -- Every key of a live item is carried, and there are no more items than keys, so none is carried
  -- twice.
  have hcarried : (s.live.map (·.1)).Perm (entries.map (·.2.key)) := by
    refine (s.nodup_keys_live.subperm fun key => (hmem key).2).perm_of_length_le ?_
    rw [List.length_map, List.length_map, hperm.length_eq]
  have hnodup : (entries.map (·.2.key)).Nodup := hcarried.nodup_iff.1 s.nodup_keys_live
  refine ⟨(hperm.symm.map _).trans hcarried.symm, fun key item other hitem hother => ?_⟩
  have hvalue := getElem?_listing hnodup (hperm.mem_iff.2 (mem_live.2 hitem))
  rw [h item.key, hother] at hvalue
  exact Option.some.inj hvalue

theorem lists_listing_iff {s : ItemStore} {entries : List (String × Item)}
    (hperm : entries.Perm s.live) : s.Lists (listing entries) ↔ s.KeysAgree :=
  ⟨fun h => h.keysAgree hperm, fun h => h.lists hperm⟩

theorem keysAgree_of_wellKeyed {s : ItemStore} (h : Snapshot.WellKeyed ⟨s.items⟩) : s.KeysAgree :=
  Lists.keysAgree (List.Perm.refl _) (getElem?_values h)

/-- **When the views of a store agree.** The number of live items is always right. The values are
listed as the items are found exactly if the keys agree, in whatever order they are listed; so they
are if the last snapshot that the store was given is keyed well. -/
theorem lists_iff_keysAgree (first : Snapshot) (updates : List StoreUpdate) :
    (given first updates).Counts ∧
      ((given first updates).Lists (given first updates).values ↔
        (given first updates).KeysAgree) ∧
      (∀ entries, entries.Perm (given first updates).live →
        ((given first updates).Lists (listing entries) ↔ (given first updates).KeysAgree)) ∧
      ((lastGiven first updates).WellKeyed → (given first updates).KeysAgree) :=
  ⟨counts _, lists_listing_iff (List.Perm.refl _), fun _ hperm => lists_listing_iff hperm,
    fun h => keysAgree_of_wellKeyed (wellKeyed_given h)⟩

/-! ### Items without keys -/

/-- An item that carries no key, as a service may write it. -/
def unnamed : Item where
  key := ""
  version := 1
  value := .bool true

/-- A snapshot with that item. -/
def keyless : Snapshot :=
  ⟨(∅ : Std.ExtTreeMap String Item).insert "a" unnamed⟩

theorem eq_unnamed {key : String} {item : Item} (h : keyless.items[key]? = some item) :
    item = unnamed := by
  simp only [keyless, Std.ExtTreeMap.getElem?_insert, Std.ExtTreeMap.getElem?_empty] at h
  split at h
  · exact (Option.some.inj h).symm
  · cases h

/-- Once the flag arrives on its own, it is listed under its key. -/
theorem lists_renewed :
    (given keyless [.item { key := "a", version := 2, value := .bool false }]).Lists
      (given keyless [.item { key := "a", version := 2, value := .bool false }]).values := by
  obtain ⟨-, hlists, -⟩ := lists_iff_keysAgree keyless
    [.item { key := "a", version := 2, value := .bool false }]
  refine hlists.2 ⟨by decide, fun key item other hitem hother => ?_⟩
  have hlive : (key, item) ∈ (given keyless
      [.item { key := "a", version := 2, value := .bool false }]).live := mem_live.2 hitem
  obtain ⟨rfl, rfl⟩ : key = "a" ∧ item = { key := "a", version := 2, value := .bool false } :=
    Prod.mk.inj (List.mem_singleton.1 hlive)
  exact congrArg Item.value (Option.some.inj (hother.symm.trans hitem))

/-- A text can be read as such a snapshot, and then the value is not listed where it is found. -/
theorem exists_not_lists : (∃ text, Snapshot.decode text = .ok keyless) ∧
    ¬ (given keyless []).Lists (given keyless []).values := by
  refine ⟨⟨keyless.encode, Snapshot.decode_encode ?_ ?_⟩, fun h => ?_⟩
  · intro key item hitem
    rw [eq_unnamed hitem]
    exact ⟨by decide, .bool true, nofun, nofun, nofun⟩
  · intro key item hitem
    rw [eq_unnamed hitem]
    rfl
  · have hmissing : (given keyless []).values["a"]? = none := by decide
    have hthere : (given keyless []).get? "a" = some unnamed := by decide
    have hvalue := h "a"
    rw [hmissing, hthere] at hvalue
    cases hvalue

end ItemStore

end LiveFlags
