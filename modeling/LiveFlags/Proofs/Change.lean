import LiveFlags.ItemStore
import LiveFlags.Proofs.Json.Same

/-!
# What changes tell

Observers see an item through two things: its visible value, and whether it is live at all. An
update has to be told for a key if the visible value differs or the item was live and is not any
more. `Reports` says of a list of changes that it tells exactly that of two views, each key once and
in order.

The changes are found in two ways: by comparing two sets of items, and by looking at the one item
that was replaced. `reports_between` is about the first way, and rests on `ofReplaced?` and
`ofRemoved?` being two cases of one `transition`.
-/

namespace LiveFlags

namespace Change

/-! ### What observers see -/

/-- Observers cannot tell the two apart. -/
def Alike (a b : Option Item) : Prop :=
  visible a = visible b ∧ isLive a = isLive b

theorem Alike.refl (a : Option Item) : Alike a a :=
  ⟨rfl, rfl⟩

theorem Alike.trans {a b c : Option Item} (hab : Alike a b) (hbc : Alike b c) : Alike a c :=
  ⟨hab.1.trans hbc.1, hab.2.trans hbc.2⟩

/-- A tombstone looks like no item. -/
theorem alike_filter (a : Option Item) : Alike a (a.filter Item.isLive) := by
  cases a with
  | none => exact Alike.refl none
  | some item =>
    cases hdeleted : item.deleted with
    | false => simp [Alike, Option.filter, Item.isLive, hdeleted]
    | true => simp [Alike, visible, isLive, Option.filter, Item.isLive, Item.visible, hdeleted]

theorem visible_of_not_isLive {a : Option Item} (h : ¬ isLive a = true) : visible a = .null := by
  cases a with
  | none => rfl
  | some item =>
    have hdeleted : item.deleted = true := by
      simpa [isLive, Item.isLive] using h
    simp [visible, Item.visible, hdeleted]

/-- Observers have to hear of the step from one item to the other. -/
def Needed (old new : Option Item) : Prop :=
  (visible old).same (visible new) = false ∨ (isLive old = true ∧ isLive new = false)

/-- What observers hear of the step. -/
def transition (key : String) (old new : Option Item) : Change :=
  { key, oldValue := visible old, newValue := visible new, deleted := !isLive new }

theorem not_needed_of_alike {old new : Option Item} (h : Alike old new) : ¬ Needed old new := by
  rintro (hvalue | ⟨hold, hnew⟩)
  · rw [h.1, Json.same_refl] at hvalue
    cases hvalue
  · rw [h.2, hnew] at hold
    cases hold

theorem ofReplaced?_eq_some_iff {key : String} {old : Option Item} {item : Item} {c : Change} :
    ofReplaced? key old item = some c ↔
      Needed old (some item) ∧ c = transition key old (some item) := by
  have hlive : isLive (some item) = !item.deleted := rfl
  have hvisible : visible (some item) = item.visible := rfl
  simp only [ofReplaced?, Needed, transition, hlive, hvisible, Bool.not_not]
  cases (visible old).same item.visible <;> cases item.deleted <;> cases isLive old <;>
    simp [eq_comm]

theorem ofRemoved?_eq_some_iff {key : String} {old : Item} {c : Change} :
    ofRemoved? key old = some c ↔
      Needed (some old) none ∧ c = transition key (some old) none := by
  cases hdeleted : old.deleted with
  | false =>
    have hneeded : Needed (some old) none :=
      .inr ⟨by simp [isLive, Item.isLive, hdeleted], rfl⟩
    have hchange : ofRemoved? key old = some (transition key (some old) none) := by
      simp [ofRemoved?, transition, visible, isLive, Item.isLive, Item.visible, hdeleted]
    rw [hchange, Option.some.injEq, and_iff_right hneeded, eq_comm]
  | true =>
    have hnone : ofRemoved? key old = none := by
      simp [ofRemoved?, Item.isLive, hdeleted]
    have hneeded : ¬ Needed (some old) none :=
      not_needed_of_alike ⟨by simp [visible, Item.visible, hdeleted],
        by simp [isLive, Item.isLive, hdeleted]⟩
    simp [hnone, hneeded]

/-! ### Exact reports -/

/-- The changes tell how one view of the flags differs from another: nothing is missing, nothing is
told in vain, and no key comes twice. -/
structure Reports (old new : String → Option Item) (changes : List Change) : Prop where
  sorted : changes.Pairwise (·.key < ·.key)
  mem_iff : ∀ c, c ∈ changes ↔
    Needed (old c.key) (new c.key) ∧ c = transition c.key (old c.key) (new c.key)

/-- There is nothing to tell if observers see the same as before. -/
theorem reports_nil {old new : String → Option Item} (h : ∀ key, Alike (old key) (new key)) :
    Reports old new [] where
  sorted := List.Pairwise.nil
  mem_iff c := by
    refine ⟨nofun, ?_⟩
    rintro ⟨hneeded, -⟩
    exact absurd hneeded (not_needed_of_alike (h c.key))

/-- It counts only what observers see. -/
theorem Reports.congr {old old' new new' : String → Option Item} {changes : List Change}
    (h : Reports old new changes) (hold : ∀ key, Alike (old key) (old' key))
    (hnew : ∀ key, Alike (new key) (new' key)) : Reports old' new' changes where
  sorted := h.sorted
  mem_iff c := by
    rw [h.mem_iff]
    simp only [Needed, transition, (hold c.key).1, (hold c.key).2, (hnew c.key).1, (hnew c.key).2]

/-- Replacing one item is told by the change of that item alone. -/
theorem reports_ofReplaced? {old new : String → Option Item} {key : String} {item : Item}
    (hkey : new key = some item) (hrest : ∀ k, k ≠ key → new k = old k) :
    Reports old new (ofReplaced? key (old key) item).toList where
  sorted := by
    cases ofReplaced? key (old key) item <;> simp
  mem_iff c := by
    rw [Option.mem_toList, ofReplaced?_eq_some_iff, ← hkey]
    constructor
    · rintro ⟨hneeded, rfl⟩
      exact ⟨hneeded, rfl⟩
    · rintro ⟨hneeded, hc⟩
      -- Under any other key nothing has changed.
      by_cases heq : c.key = key
      · rw [heq] at hneeded hc
        exact ⟨hneeded, hc⟩
      · rw [hrest _ heq] at hneeded
        exact absurd hneeded (not_needed_of_alike (Alike.refl _))

/-! ### Comparing two sets of items -/

/-- A change of the comparison is that of a new item or that of an item that was removed. -/
theorem mem_between_iff_cases {old new : Std.ExtTreeMap String Item} {c : Change} :
    c ∈ between old new ↔
      (∃ key item, new[key]? = some item ∧ ofReplaced? key old[key]? item = some c) ∨
      ∃ key item, old[key]? = some item ∧ new[key]? = none ∧ ofRemoved? key item = some c := by
  simp only [between, List.mem_mergeSort, List.mem_append, List.mem_filterMap, Prod.exists,
    Std.ExtTreeMap.mem_toList_iff_getElem?_eq_some, Option.ite_none_left_eq_some,
    Std.ExtTreeMap.contains_eq_isSome_getElem?, Bool.not_eq_true, Option.isSome_eq_false_iff,
    Option.isNone_iff_eq_none]

theorem mem_between {old new : Std.ExtTreeMap String Item} {c : Change} :
    c ∈ between old new ↔
      Needed old[c.key]? new[c.key]? ∧ c = transition c.key old[c.key]? new[c.key]? := by
  rw [mem_between_iff_cases]
  constructor
  · rintro (⟨key, item, hnew, hc⟩ | ⟨key, item, hold, hnew, hc⟩)
    · rw [ofReplaced?_eq_some_iff, ← hnew] at hc
      obtain ⟨hneeded, rfl⟩ := hc
      exact ⟨hneeded, rfl⟩
    · rw [ofRemoved?_eq_some_iff, ← hold, ← hnew] at hc
      obtain ⟨hneeded, rfl⟩ := hc
      exact ⟨hneeded, rfl⟩
  · -- A key that is in neither set has nothing to tell.
    rintro ⟨hneeded, hc⟩
    cases hnew : new[c.key]? with
    | some item =>
      rw [hnew] at hneeded hc
      exact .inl ⟨c.key, item, hnew, ofReplaced?_eq_some_iff.2 ⟨hneeded, hc⟩⟩
    | none =>
      cases hold : old[c.key]? with
      | none =>
        rw [hnew, hold] at hneeded
        exact absurd hneeded (not_needed_of_alike (Alike.refl none))
      | some item =>
        rw [hnew, hold] at hneeded hc
        exact .inr ⟨c.key, item, hold, hnew, ofRemoved?_eq_some_iff.2 ⟨hneeded, hc⟩⟩

/-- Before they are sorted, the changes have different keys: each set has a key once, and a key that
was removed is not among the new ones. -/
theorem distinct_between (old new : Std.ExtTreeMap String Item) :
    (between old new).Pairwise (·.key ≠ ·.key) := by
  have hdistinct : ∀ m : Std.ExtTreeMap String Item, m.toList.Pairwise (·.1 ≠ ·.1) := by
    intro m
    refine Std.ExtTreeMap.distinct_keys_toList.imp fun hne heq => hne ?_
    exact Std.compare_eq_iff_eq.2 heq
  refine ((List.mergeSort_perm _ _).pairwise_iff Ne.symm).2 (List.pairwise_append.2 ⟨?_, ?_, ?_⟩)
  · refine (hdistinct new).filterMap _ ?_
    intro a b hne c hc d hd
    obtain ⟨-, rfl⟩ := ofReplaced?_eq_some_iff.1 hc
    obtain ⟨-, rfl⟩ := ofReplaced?_eq_some_iff.1 hd
    exact hne
  · refine (hdistinct old).filterMap _ ?_
    intro a b hne c hc d hd
    obtain ⟨-, rfl⟩ := ofRemoved?_eq_some_iff.1 (Option.ite_none_left_eq_some.1 hc).2
    obtain ⟨-, rfl⟩ := ofRemoved?_eq_some_iff.1 (Option.ite_none_left_eq_some.1 hd).2
    exact hne
  · intro c hc d hd heq
    obtain ⟨⟨key, item⟩, hnew, hc⟩ := List.mem_filterMap.1 hc
    obtain ⟨⟨key', item'⟩, -, hd⟩ := List.mem_filterMap.1 hd
    obtain ⟨habsent, hd⟩ := Option.ite_none_left_eq_some.1 hd
    obtain ⟨-, rfl⟩ := ofReplaced?_eq_some_iff.1 hc
    obtain ⟨-, rfl⟩ := ofRemoved?_eq_some_iff.1 hd
    have hkey : key = key' := heq
    rw [Std.ExtTreeMap.mem_toList_iff_getElem?_eq_some, hkey] at hnew
    rw [Std.ExtTreeMap.contains_eq_isSome_getElem?, hnew] at habsent
    exact habsent rfl

theorem sorted_between (old new : Std.ExtTreeMap String Item) :
    (between old new).Pairwise (·.key < ·.key) := by
  have hle : (between old new).Pairwise (·.key ≤ ·.key) := by
    refine (List.pairwise_mergeSort (fun a b c hab hbc => ?_) (fun a b => ?_) _).imp
      of_decide_eq_true
    · rw [decide_eq_true_eq] at hab hbc ⊢
      exact String.le_trans hab hbc
    · rw [Bool.or_eq_true, decide_eq_true_eq, decide_eq_true_eq]
      exact String.le_total a.key b.key
  refine hle.imp₂ (fun a b hab hne => ?_) (distinct_between old new)
  exact String.not_le.1 fun hba => hne (String.le_antisymm hab hba)

/-- **Comparing two sets of items tells exactly what observers see of the difference.** -/
theorem reports_between (old new : Std.ExtTreeMap String Item) :
    Reports (fun key => old[key]?) (fun key => new[key]?) (between old new) where
  sorted := sorted_between old new
  mem_iff _ := mem_between

end Change

end LiveFlags
