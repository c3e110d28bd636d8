import LiveFlags.Proofs.FlagData.Durable
import LiveFlags.Source.TestFlags
import Mathlib.Data.List.Nodup

/-!
# What flags for tests serve

`served` is the store that the definitions make of an identity. Two rules decide which changes
count: the flags put a definition in place if it is newer than the one that is there, and a store
takes an item if it is newer than the one it holds. Both rules always come to the same answer
(`served_offer`), and every change of a flag is such an offer.

The rest is on sources under names: whom a change reaches, and what a start does.
-/

namespace LiveFlags

namespace TestDefinition

/-- The key of the flag that is defined. -/
def key : TestDefinition → String
  | .flag f _ => f.key
  | .item i => i.key

@[simp]
theorem key_itemFor (d : TestDefinition) (identity : Identity) :
    (d.itemFor identity).key = d.key := by
  cases d <;> rfl

@[simp]
theorem version_itemFor (d : TestDefinition) (identity : Identity) :
    (d.itemFor identity).version = d.version := by
  cases d <;> rfl

end TestDefinition

namespace TestFlags

variable {ι : Type}

/-! ### What an identity sees -/

/-- Each definition stands under its own key. -/
def WellKeyed (t : TestFlags ι) : Prop :=
  ∀ (key : String) (d : TestDefinition), t.definitions[key]? = some d → d.key = key

/-- What the definitions make of an identity. -/
def served (t : TestFlags ι) (identity : Identity) : ItemStore :=
  ⟨t.definitions.map fun _ d => d.itemFor identity⟩

/-- What an identity is served under a key comes from the definition of this key. -/
theorem stored?_served (t : TestFlags ι) (identity : Identity) (key : String) :
    (t.served identity).stored? key = t.definitions[key]?.map (·.itemFor identity) :=
  Std.ExtTreeMap.getElem?_map

/-- The snapshot for an identity loses no definition, since no two of them have the same key. -/
theorem WellKeyed.ofSnapshot_snapshotFor {t : TestFlags ι} (h : t.WellKeyed) (identity : Identity) :
    .ofSnapshot (t.snapshotFor identity) = t.served identity := by
  have hitems : t.definitions.toList.map (fun entry => entry.2.itemFor identity) =
      (t.served identity).items.toList.map (·.2) := by
    simp [served, Std.ExtTreeMap.toList_map]
  have hkey (entry : String × Item) (hentry : entry ∈ (t.served identity).items.toList) :
      entry.2.key = entry.1 := by
    have hstored := Std.ExtTreeMap.mem_toList_iff_getElem?_eq_some.1 hentry
    obtain ⟨d, hd, heq⟩ := Option.map_eq_some_iff.1 ((t.stored?_served ..).symm.trans hstored)
    rw [← heq, d.key_itemFor]
    exact h entry.1 d hd
  refine congrArg ItemStore.mk (Eq.trans ?_ (Json.foldl_insert_toList (t.served identity).items))
  rw [snapshotFor, Snapshot.ofItems, hitems, List.foldl_map]
  exact List.foldl_ext _ _ _ fun m entry hentry => by rw [hkey entry hentry]

/-! ### Two rules for what is newer -/

/-- The flags after a definition was offered, which is put in place if it is newer. -/
def offer (t : TestFlags ι) (d : TestDefinition) : TestFlags ι :=
  if t.definitions[d.key]?.all (·.version < d.version) then t.define d.key d else t

@[simp]
theorem sources_offer (t : TestFlags ι) (d : TestDefinition) :
    (t.offer d).sources = t.sources := by
  unfold offer
  split <;> rfl

theorem WellKeyed.offer {t : TestFlags ι} (h : t.WellKeyed) (d : TestDefinition) :
    (t.offer d).WellKeyed := by
  unfold TestFlags.offer
  split
  · intro key other hother
    simp only [define, Std.ExtTreeMap.getElem?_insert, Std.compare_eq_iff_eq] at hother
    split at hother
    · next hkey => exact Option.some.inj hother ▸ hkey
    · exact h key other hother
  · exact h

/-- The store of an identity takes the item of a definition just if the flags take the
definition. -/
theorem accepts_served (t : TestFlags ι) (d : TestDefinition) (identity : Identity) :
    (t.served identity).accepts (d.itemFor identity) =
      t.definitions[d.key]?.all (·.version < d.version) := by
  rw [ItemStore.accepts_eq, stored?_served, d.key_itemFor, d.version_itemFor]
  cases t.definitions[d.key]? <;> simp

/-- **The two rules agree**: what the definitions make of an identity changes as a store does that
is offered the item. -/
theorem served_offer (t : TestFlags ι) (d : TestDefinition) (identity : Identity) :
    (t.offer d).served identity = (t.served identity).offer (d.itemFor identity) := by
  refine ItemStore.ext_stored? fun key => ?_
  rw [ItemStore.stored?_offer, accepts_served, stored?_served, stored?_served, d.key_itemFor]
  unfold offer
  split
  · next hnewer =>
    simp only [define, Std.ExtTreeMap.getElem?_insert, Std.compare_eq_iff_eq, hnewer, true_and]
    split <;> rfl
  · next hold => simp [hold]

/-! ### Changes are offers -/

/-- A definition is offered, and its item is pushed whether it is newer or not. -/
def propose (t : TestFlags ι) (d : TestDefinition) : List (ι × Delivery) × TestFlags ι :=
  ((t.offer d).push fun c => .item c.identity (d.itemFor c.identity), t.offer d)

/-- The next version is newer than any definition that is there. -/
theorem all_lt_nextVersion (t : TestFlags ι) (key : String) :
    t.definitions[key]?.all (·.version < t.nextVersion key) = true := by
  unfold nextVersion
  cases t.definitions[key]? <;> simp

/-- A flag that is set is offered as the next version of its key. -/
theorem update_eq (t : TestFlags ι) (flag : TestFlag) :
    t.update flag = t.propose (.flag flag (t.nextVersion flag.key)) := by
  have hoffer : t.offer (.flag flag (t.nextVersion flag.key)) =
      t.define flag.key (.flag flag (t.nextVersion flag.key)) :=
    if_pos (t.all_lt_nextVersion flag.key)
  rw [propose, hoffer]
  rfl

/-- What one of the sources delivers. -/
def deliveriesOf [DecidableEq ι] (name : ι) (deliveries : List (ι × Delivery)) : List Delivery :=
  (deliveries.filter (·.1 = name)).map (·.2)

theorem source_unique {sources : List (ι × TestSource)} (hnodup : (sources.map (·.1)).Nodup)
    {name : ι} {source source' : TestSource} (h : (name, source) ∈ sources)
    (h' : (name, source') ∈ sources) : source = source' :=
  congrArg Prod.snd (List.inj_on_of_nodup_map hnodup h h' rfl)

theorem filter_name_eq [DecidableEq ι] {sources : List (ι × TestSource)}
    (hnodup : (sources.map (·.1)).Nodup) {name : ι} {source : TestSource}
    (hsource : (name, source) ∈ sources) :
    sources.filter (·.1 = name) = [(name, source)] := by
  induction sources with
  | nil => cases hsource
  | cons entry sources ih =>
    obtain ⟨hnew, hnodup⟩ := List.nodup_cons.1 hnodup
    rcases List.mem_cons.1 hsource with rfl | hmem
    · have hnone : sources.filter (·.1 = name) = [] := by
        refine List.filter_eq_nil_iff.2 fun other hother heq => hnew ?_
        exact List.mem_map.2 ⟨other, hother, of_decide_eq_true heq⟩
      simp [hnone]
    · have hne : entry.1 ≠ name := by
        rintro rfl
        exact hnew (List.mem_map.2 ⟨_, hmem, rfl⟩)
      simp [hne, ih hnodup hmem]

/-- A source gets what is pushed if it is active. -/
theorem deliveriesOf_push [DecidableEq ι] (t : TestFlags ι) (name : ι)
    (delivery : SourceContext → Delivery) :
    deliveriesOf name (t.push delivery) =
      ((t.sources.filter (·.1 = name)).filter (·.2.isActive)).map fun entry =>
        delivery entry.2.context := by
  simp [deliveriesOf, push, List.filter_map, List.filter_filter, Function.comp_def, Bool.and_comm]

/-! ### Sources under a name -/

section Names

variable [DecidableEq ι]

theorem mem_modify {t : TestFlags ι} {name other : ι} {f : TestSource → TestSource}
    {source : TestSource} :
    (other, source) ∈ (t.modify name f).sources ↔
      ∃ old, (other, old) ∈ t.sources ∧ source = if other = name then f old else old := by
  simp only [modify, List.mem_map, Prod.mk.injEq]
  constructor
  · rintro ⟨⟨n, old⟩, hold, rfl, rfl⟩
    exact ⟨old, hold, rfl⟩
  · rintro ⟨old, hold, rfl⟩
    exact ⟨(other, old), hold, rfl, rfl⟩

theorem names_modify (t : TestFlags ι) (name : ι) (f : TestSource → TestSource) :
    (t.modify name f).sources.map (·.1) = t.sources.map (·.1) := by
  simp [modify, Function.comp_def]

/-- A start is the first one of a source, whose snapshot is delivered then, or it does nothing, for
want of a source that is neither started nor disposed of. -/
theorem start_cases {t : TestFlags ι} (hnodup : (t.sources.map (·.1)).Nodup) (name : ι) :
    (∃ result, t.start name = (result, [], t) ∧
        ∀ source, (name, source) ∈ t.sources → source.disposed = false →
          source.initialized = true) ∨
      ∃ source, (name, source) ∈ t.sources ∧ source.initialized = false ∧ source.disposed = false ∧
        t.start name = (true,
          [.snapshot source.context.identity (t.snapshotFor source.context.identity), .valid],
          t.modify name fun s => { s with initialized := true }) := by
  unfold start
  cases hlookup : t.sources.lookup name with
  | none =>
    refine .inl ⟨false, rfl, fun source hsource => ?_⟩
    simpa using List.lookup_eq_none_iff.1 hlookup _ hsource
  | some source =>
    have hsource : (name, source) ∈ t.sources := by
      obtain ⟨before, after, heq, -⟩ := List.lookup_eq_some_iff.1 hlookup
      simp [heq]
    have hsame (other : TestSource) (hother : (name, other) ∈ t.sources) : other = source :=
      source_unique hnodup hother hsource
    cases hdisposed : source.disposed with
    | true =>
      refine .inl ⟨false, by simp [hdisposed], fun other hother hkept => ?_⟩
      cases hsame other hother
      cases hdisposed.symm.trans hkept
    | false =>
      cases hinitialized : source.initialized with
      | true =>
        refine .inl ⟨true, by simp [hdisposed, hinitialized], fun other hother _ => ?_⟩
        rw [hsame other hother]
        exact hinitialized
      | false =>
        refine .inr ⟨source, hsource, hinitialized, hdisposed, ?_⟩
        simp [hdisposed, hinitialized]

/-- A start changes the source with that name, unless it was disposed of. -/
theorem mem_sources_start {t : TestFlags ι} (hnodup : (t.sources.map (·.1)).Nodup)
    {name other : ι} {source : TestSource} :
    (other, source) ∈ (t.start name).2.2.sources ↔
      ∃ old, (other, old) ∈ t.sources ∧ source =
        if name = other ∧ old.disposed = false then { old with initialized := true } else old := by
  rcases start_cases hnodup name with ⟨result, heq, hidle⟩ | ⟨first, hfirst, -, hkept, heq⟩
  · -- Whoever could be started is so already.
    have hsame (old : TestSource) (hold : (other, old) ∈ t.sources) :
        (if name = other ∧ old.disposed = false then { old with initialized := true } else old) =
          old := by
      split
      · next h =>
        obtain ⟨rfl, hkept⟩ := h
        rw [← hidle old hold hkept]
      · rfl
    rw [heq]
    constructor
    · exact fun h => ⟨source, h, (hsame source h).symm⟩
    · rintro ⟨old, hold, rfl⟩
      rwa [hsame old hold]
  · rw [heq, mem_modify]
    refine exists_congr fun old => and_congr_right fun hold => ?_
    by_cases hname : name = other
    · subst hname
      rw [source_unique hnodup hold hfirst, if_pos rfl, if_pos ⟨rfl, hkept⟩]
    · rw [if_neg (Ne.symm hname), if_neg fun h => hname h.1]

end Names

end TestFlags

end LiveFlags
