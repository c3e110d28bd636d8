import LiveFlags.Proofs.Cache.Faulty
import LiveFlags.Proofs.FlagData.Isolation

/-!
# Flags from a cache that fails

Any access of the cache may fail, at any time and over several starts. So a text in the cache may be
an old one, since a newer one was not written, and a text that should have been removed may still be
there. But a text is written as a whole or not at all, and what is passed to the cache is always
the whole snapshot of one identity. Each stored text is therefore that of a snapshot that was passed
to the cache for an identity in its place (`Holds`), and a text that can be read gives back just
this snapshot, even if there were some that nest too deep to be read again.

Main statement: `recalls_of_run`.
-/

namespace LiveFlags

/-- The data of a step came out of a text, without floating-point numbers. Items of a snapshot have
got the keys under which they stand. -/
def DataStep.IsDecoded : DataStep → Prop
  | .switch _ => True
  | .snapshot _ s => s.IsWhole ∧ ∃ text, (Snapshot.decode text).map Snapshot.rekeyed = .ok s
  | .item _ i => i.isWhole = true ∧ ∃ text, Item.decode text = .ok i

/-- What was decoded can be written and read again. -/
theorem DataStep.IsDecoded.readable {step : DataStep} (h : step.IsDecoded) :
    step.Readable 126 ∧ step.IsWhole := by
  cases step with
  | switch identity => exact ⟨trivial, trivial⟩
  | snapshot identity s =>
    obtain ⟨hwhole, text, hs⟩ := h
    cases hread : Snapshot.decode text with
    | error fault =>
      rw [hread] at hs
      cases hs
    | ok read =>
      rw [hread] at hs
      cases hs
      have hreadable := (Snapshot.readable_of_decode hread).rekeyed
      refine ⟨⟨Snapshot.wellKeyed_rekeyed read, ?_⟩, hwhole⟩
      exact hreadable.of_depth_le fun key item hitem =>
        (hreadable key item hitem).depth_le.trans (by decide)
  | item identity i =>
    obtain ⟨hwhole, text, hi⟩ := h
    exact ⟨Json.yields_decode (Item.yields_read 126) hi, hwhole⟩

namespace DataEvent

/-- The data of the event came out of a text. -/
def IsDecoded : DataEvent → Prop
  | .step dataStep _ => dataStep.IsDecoded
  | .restart .. => True

/-- The identity for which the flags are taken from the cache. -/
def entered? : DataEvent → Option Identity
  | .step (.switch identity) _ => some identity
  | .restart identity _ _ => some identity
  | .step _ _ => none

/-- Such an event brings no data. -/
theorem isDecoded_of_entered {e : DataEvent} {identity : Identity}
    (h : e.entered? = some identity) : e.IsDecoded := by
  cases e with
  | restart => trivial
  | step dataStep now =>
    cases dataStep with
    | switch => trivial
    | snapshot => cases h
    | item => cases h

end DataEvent

/-! ### Texts that were passed to the cache -/

namespace Cache

variable {σ : Type} [Storage σ] [ReliableStorage σ]

/-- Each stored text is that of a snapshot that was passed for an identity in its place. -/
def Holds (c : Cache (Faulty σ)) (passed : List (Identity × Snapshot)) : Prop :=
  ∀ key text, c.stored? c.dataSpace key = some text →
    ∃ p ∈ passed, p.1.cacheKey = key ∧ p.2.encode = text

variable {c c' : Cache (Faulty σ)} {passed : List (Identity × Snapshot)}

/-- A cache that stores fewer texts holds nothing else. -/
theorem Holds.of_stored (h : c.Holds passed) (hspace : c'.dataSpace = c.dataSpace)
    (hstored : ∀ key text, c'.stored? c.dataSpace key = some text →
      c.stored? c.dataSpace key = some text) : c'.Holds passed := by
  intro key text htext
  rw [hspace] at htext
  exact h key text (hstored key text htext)

/-- After a save there is one text more, or a newer one in its place. -/
theorem Holds.saveSnapshot (h : c.Holds passed) (identity : Identity) (snapshot : Snapshot)
    (now : Int) :
    (c.saveSnapshot identity snapshot now).Holds (passed ++ [(identity, snapshot)]) := by
  have hmore : c.Holds (passed ++ [(identity, snapshot)]) := by
    intro key text htext
    obtain ⟨p, hp, hkey⟩ := h key text htext
    exact ⟨p, List.mem_append_left _ hp, hkey⟩
  rcases c.save_cases identity snapshot.encode now with
    ⟨accesses, hmakes, halike⟩ | ⟨-, removals, fault, hsaved⟩
  · refine hmore.of_stored hmakes.dataSpace fun key text htext => ?_
    rwa [Cache.saveSnapshot, halike.stored] at htext
  · intro key text htext
    rw [Cache.saveSnapshot, hsaved.makes.dataSpace, hsaved.data] at htext
    split at htext
    · next hkey =>
      cases htext
      exact ⟨(identity, snapshot), by simp, hkey.symm, rfl⟩
    · split at htext
      · cases htext
      · exact hmore key text htext

/-- To load changes no text. -/
theorem Holds.loadSnapshot (h : c.Holds passed) (identity : Identity) (now : Int) :
    (c.loadSnapshot identity now).2.Holds passed := by
  rw [loadSnapshot_eq]
  rcases c.load_cases identity now with
    ⟨-, accesses, hmakes, halike⟩ | ⟨-, text, fault, -, -, hloaded⟩
  · refine h.of_stored hmakes.dataSpace fun key text htext => ?_
    rw [← halike.stored]
    exact htext
  · refine h.of_stored hloaded.makes.dataSpace fun key text htext => ?_
    rw [← hloaded.data]
    exact htext

/-- Opening a cache anew stores no text of flags. -/
theorem Holds.mount (h : c.Holds passed) (capacity : Int) :
    (Cache.mount c.storage c.name capacity).Holds passed := by
  by_cases hcap : capacity = 0
  · subst hcap
    rw [mount_of_disabled]
    exact h
  · have hreopened := c.reopened capacity hcap
    refine h.of_stored ?_ fun key text htext => ?_
    · rw [dataSpace, dataSpace, hreopened.name]
    · rwa [hreopened.stored] at htext

/-- **What is loaded was passed to the cache**, as a whole and for the same place. -/
theorem Holds.mem_of_loadSnapshot (h : c.Holds passed)
    (hwired : ∀ p ∈ passed, (ItemStore.ofSnapshot p.2).Wired) {identity : Identity} {now : Int}
    {snapshot : Snapshot} (hload : (c.loadSnapshot identity now).1 = some snapshot) :
    ∃ p ∈ passed, p.1.cacheKey = identity.cacheKey ∧ p.2 = snapshot := by
  rw [loadSnapshot_eq] at hload
  rcases c.load_cases identity now with
    ⟨hnone, -⟩ | ⟨-, text, fault, htext, hanswer, -⟩
  · rw [hnone] at hload
    cases hload
  · rw [hanswer, Option.bind_some] at hload
    obtain ⟨p, hp, hkey, hencode⟩ := h _ text htext
    obtain ⟨hkeyed, hreadable, hwhole⟩ := hwired p hp
    cases hread : Snapshot.decode text with
    | error fault =>
      rw [hread] at hload
      cases hload
    | ok read =>
      rw [hread] at hload
      cases hload
      rw [← hencode] at hread
      have heq : read = p.2 := Snapshot.eq_of_decode_encode hreadable hwhole hread
      refine ⟨p, hp, hkey, ?_⟩
      rw [heq]
      exact (Snapshot.WellKeyed.rekeyed_eq hkeyed).symm

end Cache

namespace FlagData

variable {σ : Type}

/-! ### What is passed to the cache -/

/-- The snapshot that an event passes to the cache, with the identity for which it is saved. -/
def passed? (d : FlagData σ) : DataEvent → Option (Identity × Snapshot)
  | .step (.snapshot identity snapshot) _ =>
    if d.isFor identity then
      some (identity, (d.store.after (.snapshot identity snapshot)).snapshot)
    else some (identity, snapshot)
  | .step (.item identity item) _ =>
    if d.isFor identity ∧ d.store.accepts item then
      some (identity, (d.store.after (.item identity item)).snapshot)
    else none
  | .step (.switch _) _ => none
  | .restart .. => none

/-- The flags are empty, or those of one snapshot that was passed for the same place. -/
def Recalls (d : FlagData σ) (passed : List (Identity × Snapshot)) (identity : Identity) : Prop :=
  d.snapshot = ∅ ∨ ∃ p ∈ passed, p.1.cacheKey = identity.cacheKey ∧ d.snapshot = p.2

variable [Storage σ]

/-- All that a run passes to the cache. -/
def passes (d : FlagData σ) : List DataEvent → List (Identity × Snapshot)
  | [] => []
  | e :: es => (d.passed? e).toList ++ (d.follow e).passes es

/-- What is passed to the cache is saved there. Late data leave the items as they are. -/
theorem follow_of_passed (d : FlagData σ) {e : DataEvent} {identity : Identity}
    {snapshot : Snapshot} (h : d.passed? e = some (identity, snapshot)) :
    ∃ step now, e = .step step now ∧
      (d.follow e).cache = d.cache.saveSnapshot identity snapshot now ∧
      ((d.follow e).store = d.store ∧ step = .snapshot identity snapshot ∨
        (d.follow e).store = d.store.after step ∧ snapshot = (d.store.after step).snapshot) := by
  cases e with
  | restart => cases h
  | step step now =>
    refine ⟨step, now, rfl, ?_⟩
    cases step with
    | switch => cases h
    | snapshot other payload =>
      have hinit : d.follow (.step (.snapshot other payload) now) = d.init other payload now := rfl
      rw [hinit]
      by_cases hfor : d.isFor other = true
      · cases (if_pos hfor).symm.trans h
        rw [init, if_pos hfor]
        exact ⟨rfl, .inr ⟨rfl, rfl⟩⟩
      · cases (if_neg hfor).symm.trans h
        rw [init, if_neg hfor]
        exact ⟨rfl, .inl ⟨rfl, rfl⟩⟩
    | item other item =>
      have hupsert : d.follow (.step (.item other item) now) = d.upsert other item now := rfl
      obtain ⟨⟨hfor, haccepts⟩, hsome⟩ := Option.ite_none_right_eq_some.1 h
      cases hsome
      obtain ⟨changes, hstore⟩ := ItemStore.upsert_of_accepts haccepts
      rw [hupsert, upsert, if_pos hfor, applyItem, hstore]
      exact ⟨rfl, .inr ⟨rfl, rfl⟩⟩

/-- An event that passes nothing to the cache and takes nothing from it changes nothing. -/
theorem follow_of_idle (d : FlagData σ) {e : DataEvent} (h : d.passed? e = none)
    (hentered : e.entered? = none) : d.follow e = d := by
  cases e with
  | restart => cases hentered
  | step step now =>
    cases step with
    | switch => cases hentered
    | snapshot other payload =>
      simp only [passed?] at h
      split at h <;> cases h
    | item other item =>
      have hupsert : d.follow (.step (.item other item) now) = d.upsert other item now := rfl
      have hrefused : ¬ (d.isFor other = true ∧ d.store.accepts item = true) := by
        intro hboth
        cases (if_pos hboth).symm.trans h
      rw [hupsert, upsert]
      split
      · next hfor =>
        have haccepts : d.store.accepts item = false :=
          Bool.eq_false_iff.2 fun haccepts => hrefused ⟨hfor, haccepts⟩
        rw [applyItem, ItemStore.upsert_eq_none_iff.2 haccepts]
        rfl
      · rfl

omit [Storage σ] in
/-- To enter with an identity passes nothing to the cache. -/
theorem passed?_of_entered (d : FlagData σ) {e : DataEvent} {identity : Identity}
    (h : e.entered? = some identity) : d.passed? e = none := by
  cases e with
  | restart => rfl
  | step step now =>
    cases step with
    | switch => rfl
    | snapshot => cases h
    | item => cases h

/-- A switch or a start takes the flags from the cache, which may be a new one. -/
theorem follow_of_entered (d : FlagData σ) {e : DataEvent} {identity : Identity}
    (h : e.entered? = some identity) :
    ∃ (c : Cache σ) (now : Int), (d.follow e).identity = identity ∧
      (d.follow e).cache = (c.loadSnapshot identity now).2 ∧
      (d.follow e).store = .ofSnapshot ((c.loadSnapshot identity now).1.getD ∅) ∧
      (c = d.cache ∨ ∃ capacity, c = Cache.mount d.cache.storage d.cache.name capacity) := by
  cases e with
  | restart other capacity now =>
    cases h
    exact ⟨_, now, mount_identity .., mount_cache .., mount_store .., .inr ⟨capacity, rfl⟩⟩
  | step step now =>
    cases step with
    | switch other =>
      cases h
      exact ⟨d.cache, now, rfl, rfl, rfl, .inl rfl⟩
    | snapshot => cases h
    | item => cases h

variable [ReliableStorage σ]

/-- The cache holds what was passed to it, and the flags are as they can come off a wire. -/
structure Traced (passed : List (Identity × Snapshot)) (d : FlagData (Faulty σ)) : Prop where
  texts : d.cache.Holds passed
  wired : ∀ p ∈ passed, (ItemStore.ofSnapshot p.2).Wired
  store : d.store.Wired

section Steps

variable {passed : List (Identity × Snapshot)} {d : FlagData (Faulty σ)}

/-- Whatever the cache gives, it was passed to it. -/
theorem Traced.enter {c : Cache (Faulty σ)} (htexts : c.Holds passed)
    (hwired : ∀ p ∈ passed, (ItemStore.ofSnapshot p.2).Wired) {identity : Identity} {now : Int}
    (hcache : d.cache = (c.loadSnapshot identity now).2)
    (hstore : d.store = .ofSnapshot ((c.loadSnapshot identity now).1.getD ∅)) :
    Traced passed d ∧ d.Recalls passed identity := by
  have htexts' : d.cache.Holds passed := by
    rw [hcache]
    exact htexts.loadSnapshot identity now
  -- Nothing is loaded, or what was passed to the cache before.
  cases hload : (c.loadSnapshot identity now).1 with
  | none =>
    rw [hload] at hstore
    have hempty : d.store.Wired := by
      rw [hstore]
      exact ItemStore.wired_empty
    refine ⟨⟨htexts', hwired, hempty⟩, .inl ?_⟩
    rw [snapshot, hempty.snapshot_eq, hstore]
    rfl
  | some loaded =>
    rw [hload] at hstore
    obtain ⟨p, hp, hkey, rfl⟩ := htexts.mem_of_loadSnapshot hwired hload
    have hloaded : d.store.Wired := by
      rw [hstore]
      exact hwired p hp
    refine ⟨⟨htexts', hwired, hloaded⟩, .inr ⟨p, hp, hkey, ?_⟩⟩
    rw [snapshot, hloaded.snapshot_eq, hstore]
    rfl

/-- What is passed to the cache is noted with its identity, whether it can be written or not. -/
theorem Traced.persist (h : Traced passed d) {identity : Identity} {snapshot : Snapshot}
    (hsnapshot : (ItemStore.ofSnapshot snapshot).Wired) {d' : FlagData (Faulty σ)} {now : Int}
    (hcache : d'.cache = d.cache.saveSnapshot identity snapshot now) (hstore : d'.store.Wired) :
    Traced (passed ++ [(identity, snapshot)]) d' := by
  refine ⟨?_, ?_, hstore⟩
  · rw [hcache]
    exact h.texts.saveSnapshot identity snapshot now
  · intro p hp
    rcases List.mem_append.1 hp with hp | hp
    · exact h.wired p hp
    · rw [List.mem_singleton.1 hp]
      exact hsnapshot

/-- **What was passed to the cache is all that it holds**, after any event. -/
theorem Traced.follow (h : Traced passed d) {e : DataEvent} (he : e.IsDecoded) :
    Traced (passed ++ (d.passed? e).toList) (d.follow e) ∧
      ∀ identity, e.entered? = some identity → (d.follow e).identity = identity ∧
        (d.follow e).Recalls passed identity := by
  cases hentered : e.entered? with
  | some identity =>
    obtain ⟨c, now, hidentity, hcache, hstore, hc⟩ := d.follow_of_entered hentered
    have htexts : c.Holds passed := by
      rcases hc with rfl | ⟨capacity, rfl⟩
      · exact h.texts
      · exact h.texts.mount capacity
    obtain ⟨htraced, hrecalls⟩ := Traced.enter htexts h.wired hcache hstore
    rw [d.passed?_of_entered hentered, Option.toList_none, List.append_nil]
    refine ⟨htraced, fun other hother => ?_⟩
    cases hother
    exact ⟨hidentity, hrecalls⟩
  | none =>
    refine ⟨?_, nofun⟩
    cases hpassed : d.passed? e with
    | none =>
      rw [d.follow_of_idle hpassed hentered, Option.toList_none, List.append_nil]
      exact h
    | some p =>
      obtain ⟨identity, snapshot⟩ := p
      obtain ⟨step, now, rfl, hcache, hstore⟩ := d.follow_of_passed hpassed
      obtain ⟨hreadable, hwhole⟩ := DataStep.IsDecoded.readable he
      rcases hstore with ⟨hstore, rfl⟩ | ⟨hstore, rfl⟩
      · -- Late data are as they came; the items stay.
        refine h.persist ⟨hreadable.1, hreadable.2, hwhole⟩ hcache ?_
        rw [hstore]
        exact h.store
      · have hafter := h.store.after hreadable hwhole
        refine h.persist ?_ hcache ?_
        · rw [hafter.snapshot_eq]
          exact hafter
        · rw [hstore]
          exact hafter

/-- Over a whole run the cache holds nothing that was not passed to it. -/
theorem Traced.foldl_follow (h : Traced passed d) {es : List DataEvent}
    (hes : ∀ e ∈ es, e.IsDecoded) :
    Traced (passed ++ d.passes es) (es.foldl FlagData.follow d) := by
  induction es generalizing passed d with
  | nil =>
    rw [passes, List.append_nil]
    exact h
  | cons e es ih =>
    have hnext := (h.follow (hes e List.mem_cons_self)).1
    rw [passes, ← List.append_assoc]
    exact ih hnext fun e he => hes e (List.mem_cons_of_mem _ he)

end Steps

/-- **Flags that are taken from the cache are whole.** Over a storage of which any access may fail
and which holds no texts of identities at first, with any capacity and over any number of starts:
whenever the flags are taken from the cache for an identity, they are empty, or exactly one snapshot
that was passed to the cache before for an identity with the same cache key. -/
theorem recalls_of_run {storage : Faulty σ} {name : String}
    (hempty : ∀ key, storage.text? (name ++ "_flags") key = none) (identity : Identity)
    (capacity now : Int) {es : List DataEvent} (hes : ∀ e ∈ es, e.IsDecoded)
    {d : FlagData (Faulty σ)} (hd : mount identity (Cache.mount storage name capacity) now = d) :
    (d.identity = identity ∧ d.snapshot = ∅) ∧
      ∀ last entered, last.entered? = some entered →
        ((es.foldl follow d).follow last).identity = entered ∧
          ((es.foldl follow d).follow last).Recalls (d.passes es) entered := by
  subst hd
  let c : Cache (Faulty σ) := { storage, name, capacity }
  have hnothing : c.Holds [] := by
    intro key text htext
    cases (hempty key).symm.trans htext
  obtain ⟨htraced, hrecalls⟩ := Traced.enter (hnothing.mount capacity) nofun
    (mount_cache identity (Cache.mount storage name capacity) now)
    (mount_store identity (Cache.mount storage name capacity) now)
  refine ⟨⟨mount_identity .., hrecalls.resolve_right nofun⟩, fun last entered hentered => ?_⟩
  have hrun := htraced.foldl_follow hes
  rw [List.nil_append] at hrun
  exact (hrun.follow (DataEvent.isDecoded_of_entered hentered)).2 entered hentered

/-- A flag arrives for the guest, and then a newer version of it. -/
def versions : List DataEvent :=
  [.step (.item guest { key := "a", version := 1 }) 1,
    .step (.item guest { key := "a", version := 2 }) 2]

/-- A version that could not be written is lost, and the one before it is there as it was. -/
theorem recalls_older :
    let storage : Faulty MemoryStorage :=
      ⟨∅, fun i _ => if i = 4 then some (.unavailable "gone") else none, []⟩
    let d := mount guest (Cache.mount storage "flags" (-1)) 0
    let d' := (versions.foldl follow d).follow (.restart guest 3 3)
    d'.snapshot = .ofItems [{ key := "a", version := 1 }] ∧
      d'.Recalls (d.passes versions) guest := by
  intro storage d d'
  have hversions : ∀ e ∈ versions, e.IsDecoded := by
    have hitem (version : Nat) (h : version < 2 ^ 64) :
        (DataStep.item guest { key := "a", version }).IsDecoded :=
      ⟨rfl, _, Json.decode_text (Item.Readable.reads ⟨h, .null, nofun, nofun, nofun⟩ rfl)⟩
    simp only [versions, List.forall_mem_cons, List.not_mem_nil, false_imp_iff, implies_true,
      and_true]
    exact ⟨hitem 1 (by decide), hitem 2 (by decide)⟩
  have hempty (key : String) : storage.text? ("flags" ++ "_flags") key = none :=
    MemoryStorage.get?_empty ("flags" ++ "_flags") key
  refine ⟨by decide +kernel, ?_⟩
  exact ((recalls_of_run hempty guest (-1) 0 hversions rfl).2 (.restart guest 3 3) guest rfl).2

end FlagData

end LiveFlags
