import LiveFlags.Proofs.Cache.Reliable
import LiveFlags.Proofs.Faulty

/-!
# A cache over a storage that fails

A call of the cache makes a number of accesses, any of which may fail. What the call does to the
texts and to the index depends on which ones do; that each failure is reported, once and for what
the cache was about, does not (`Makes`).

Main statements: `save_cases`, `load_cases` and `reopened`.
-/

namespace LiveFlags

namespace LoggedAccess

/-- The access has removed a text under a key. -/
def removes (a : LoggedAccess) (key : String) : Bool :=
  a.record.key == key && a.fault.isNone

/-- Only a text that was to go can have been removed. -/
theorem mem_of_any_removes {removals : List LoggedAccess} {space : String} {keys : List String}
    (h : removals.map (·.record) = keys.map (⟨.remove, space, ·⟩)) {key : String}
    (hkey : removals.any (·.removes key) = true) : key ∈ keys := by
  obtain ⟨a, ha, hremoves⟩ := List.any_eq_true.1 hkey
  simp only [removes, Bool.and_eq_true, beq_iff_eq] at hremoves
  have hrecord : a.record ∈ keys.map (⟨.remove, space, ·⟩) := h ▸ List.mem_map_of_mem ha
  obtain ⟨k, hk, hrecord⟩ := List.mem_map.1 hrecord
  rw [← hremoves.1, ← hrecord]
  exact hk

/-- A text that was to go is gone if no removal has failed. -/
theorem any_removes_of_mem {removals : List LoggedAccess} {space : String} {keys : List String}
    (h : removals.map (·.record) = keys.map (⟨.remove, space, ·⟩))
    (hfaults : ∀ a ∈ removals, a.fault = none) {key : String} (hkey : key ∈ keys) :
    removals.any (·.removes key) = true := by
  have hrecord : (⟨.remove, space, key⟩ : AccessRecord) ∈ removals.map (·.record) :=
    h ▸ List.mem_map_of_mem hkey
  obtain ⟨a, ha, hrecord⟩ := List.mem_map.1 hrecord
  refine List.any_eq_true.2 ⟨a, ha, ?_⟩
  simp [removes, hrecord, hfaults a ha]

end LoggedAccess

namespace Cache

variable {σ : Type}

/-- What the cache makes an access for. -/
def purpose (c : Cache (Faulty σ)) (record : AccessRecord) : CacheOperation :=
  match record.kind with
  | .get => if record.space = c.indexSpace then .loadIndex else .load
  | .set => if record.space = c.indexSpace then .saveIndex else .save
  | .remove => .evict

/-- The failure of an access that failed. -/
def failure? (c : Cache (Faulty σ)) (a : LoggedAccess) : Option CacheFailure :=
  a.fault.map fun error => ⟨c.purpose a.record, error⟩

/-- From `c` to `c'` the cache makes some accesses, which fail as planned, and reports those that
fail. -/
structure Makes (c : Cache (Faulty σ)) (accesses : List LoggedAccess) (c' : Cache (Faulty σ)) :
    Prop where
  name : c'.name = c.name
  capacity : c'.capacity = c.capacity
  plan : c'.storage.plan = c.storage.plan
  planned : ∀ a ∈ accesses, ∃ i, a.fault = c.storage.plan i a.record
  log : c'.storage.log = c.storage.log ++ accesses
  failures : c'.failures = c.failures ++ accesses.filterMap c.failure?

namespace Makes

variable {c c' c'' : Cache (Faulty σ)} {accesses accesses' : List LoggedAccess}

theorem refl (c : Cache (Faulty σ)) : c.Makes [] c :=
  ⟨rfl, rfl, rfl, nofun, (List.append_nil _).symm, (List.append_nil _).symm⟩

theorem dataSpace (h : c.Makes accesses c') : c'.dataSpace = c.dataSpace := by
  rw [Cache.dataSpace, Cache.dataSpace, h.name]

theorem indexSpace (h : c.Makes accesses c') : c'.indexSpace = c.indexSpace := by
  rw [Cache.indexSpace, Cache.indexSpace, h.name]

theorem isEnabled (h : c.Makes accesses c') : c'.isEnabled = c.isEnabled := by
  rw [Cache.isEnabled, Cache.isEnabled, h.capacity]

theorem failure? (h : c.Makes accesses c') : c'.failure? = c.failure? := by
  funext a
  simp only [Cache.failure?, purpose, h.indexSpace]

theorem trans (h : c.Makes accesses c') (h' : c'.Makes accesses' c'') :
    c.Makes (accesses ++ accesses') c'' where
  name := h'.name.trans h.name
  capacity := h'.capacity.trans h.capacity
  plan := h'.plan.trans h.plan
  planned := by
    intro a ha
    rcases List.mem_append.1 ha with ha | ha
    · exact h.planned a ha
    · rw [← h.plan]
      exact h'.planned a ha
  log := by rw [h'.log, h.log, List.append_assoc]
  failures := by rw [h'.failures, h.failures, h.failure?, List.filterMap_append, List.append_assoc]

end Makes

/-- The index in memory plays no part in the accesses. -/
theorem makes_withIndex (c : Cache (Faulty σ)) (index : List CacheEntry) :
    c.Makes [] { c with index } :=
  ⟨rfl, rfl, rfl, nofun, (List.append_nil _).symm, (List.append_nil _).symm⟩

theorem purpose_data (c : Cache (Faulty σ)) (kind : AccessKind) (key : String) :
    c.purpose ⟨kind, c.dataSpace, key⟩ = match kind with
      | .get => .load
      | .set => .save
      | .remove => .evict := by
  cases kind <;> simp [purpose, c.indexSpace_ne_dataSpace.symm]

variable [Storage σ] [ReliableStorage σ]

/-- The text that is stored under a namespace and a key. -/
def stored? (c : Cache (Faulty σ)) (space key : String) : Option String :=
  c.storage.text? space key

/-- The index with which a new cache would begin. -/
def recorded (c : Cache (Faulty σ)) : List CacheEntry :=
  ((c.stored? c.indexSpace indexKey).bind fun text =>
    (CacheEntry.decodeIndex text).toOption).getD []

/-- The index and all texts are the same. -/
structure Alike (c c' : Cache (Faulty σ)) : Prop where
  index : c'.index = c.index
  stored : c'.stored? = c.stored?

/-! ### Single accesses -/

section Accesses

variable (c : Cache (Faulty σ)) (space key : String)

omit [Storage σ] [ReliableStorage σ] in
/-- The access that comes next fails as planned. -/
theorem planned_next {record : AccessRecord} {fault : Option StorageError}
    (h : c.storage.fault? record = fault) :
    ∀ a ∈ [LoggedAccess.mk record fault], ∃ i, a.fault = c.storage.plan i a.record := by
  intro a ha
  rw [List.mem_singleton.1 ha]
  exact ⟨c.storage.log.length, h.symm⟩

/-- An access that does not fail reads what is stored. -/
theorem fetch_of_none (h : c.storage.fault? ⟨.get, space, key⟩ = none) :
    ∃ c', c.fetch space key = (.ok (c.stored? space key), c') ∧
      c.Makes [⟨⟨.get, space, key⟩, none⟩] c' ∧ c.Alike c' := by
  obtain ⟨storage, hget, htext⟩ := c.storage.get_eq space key
  rw [h] at hget
  refine ⟨{ c with storage := { c.storage.logged ⟨.get, space, key⟩ with storage } }, ?_,
    ⟨rfl, rfl, rfl, c.planned_next h, ?_, (List.append_nil _).symm⟩, rfl, htext⟩
  · rw [fetch, hget]
    rfl
  · rw [← h]
    rfl

/-- One that fails answers with its error, and leaves it to be reported. -/
theorem fetch_of_fault {error : StorageError}
    (h : c.storage.fault? ⟨.get, space, key⟩ = some error) :
    ∃ c', c.fetch space key = (.error error, c') ∧
      c.Makes [⟨⟨.get, space, key⟩, some error⟩]
        (c'.report (c.purpose ⟨.get, space, key⟩) error) ∧ c.Alike c' := by
  obtain ⟨storage, hget, htext⟩ := c.storage.get_eq space key
  rw [h] at hget
  refine ⟨{ c with storage := { c.storage.logged ⟨.get, space, key⟩ with storage } }, ?_,
    ⟨rfl, rfl, rfl, c.planned_next h, ?_, rfl⟩, rfl, htext⟩
  · rw [fetch, hget]
    rfl
  · rw [← h]
    rfl

variable (text : Option String) {kind : AccessKind}

theorem put_of_none (hkind : (if text.isSome then .set else .remove) = kind)
    (h : c.storage.fault? ⟨kind, space, key⟩ = none) :
    ∃ c', c.put space key text = (.ok (), c') ∧ c.Makes [⟨⟨kind, space, key⟩, none⟩] c' ∧
      c'.index = c.index ∧ ∀ space' key', c'.stored? space' key' =
        if space' = space ∧ key' = key then text else c.stored? space' key' := by
  obtain ⟨storage, hset, htext⟩ := c.storage.set_eq space key hkind
  rw [h] at hset
  simp only [h, true_and] at htext
  refine ⟨{ c with storage := { c.storage.logged ⟨kind, space, key⟩ with storage } }, ?_,
    ⟨rfl, rfl, rfl, c.planned_next h, ?_, (List.append_nil _).symm⟩, rfl, htext⟩
  · rw [put, hset]
    rfl
  · rw [← h]
    rfl

/-- If it fails, all texts stay as they are. -/
theorem put_of_fault (hkind : (if text.isSome then .set else .remove) = kind)
    {error : StorageError} (h : c.storage.fault? ⟨kind, space, key⟩ = some error) :
    ∃ c', c.put space key text = (.error error, c') ∧
      c.Makes [⟨⟨kind, space, key⟩, some error⟩]
        (c'.report (c.purpose ⟨kind, space, key⟩) error) ∧ c.Alike c' := by
  obtain ⟨storage, hset, htext⟩ := c.storage.set_eq space key hkind
  rw [h] at hset
  simp only [h, reduceCtorEq, false_and, if_false] at htext
  refine ⟨{ c with storage := { c.storage.logged ⟨kind, space, key⟩ with storage } }, ?_,
    ⟨rfl, rfl, rfl, c.planned_next h, ?_, rfl⟩, rfl,
    funext fun space' => funext fun key' => htext space' key'⟩
  · rw [put, hset]
    rfl
  · rw [← h]
    rfl

/-- A text is put in its place, or the failure is reported. -/
theorem putOrReport_makes (operation : CacheOperation)
    (hkind : (if text.isSome then .set else .remove) = kind)
    (hoperation : c.purpose ⟨kind, space, key⟩ = operation) :
    c.Makes [⟨⟨kind, space, key⟩, c.storage.fault? ⟨kind, space, key⟩⟩]
        (c.putOrReport operation space key text) ∧
      (c.putOrReport operation space key text).index = c.index ∧
      ∀ space' key', (c.putOrReport operation space key text).stored? space' key' =
        if c.storage.fault? ⟨kind, space, key⟩ = none ∧ space' = space ∧ key' = key then text
        else c.stored? space' key' := by
  subst hoperation
  cases h : c.storage.fault? ⟨kind, space, key⟩ with
  | none =>
    obtain ⟨c', hput, hmakes, hindex, htext⟩ := c.put_of_none space key text hkind h
    rw [putOrReport, hput]
    exact ⟨hmakes, hindex, by simpa using htext⟩
  | some error =>
    obtain ⟨c', hput, hmakes, halike⟩ := c.put_of_fault space key text hkind h
    rw [putOrReport, hput]
    refine ⟨hmakes, halike.index, fun space' key' => ?_⟩
    rw [if_neg fun hnone => by cases hnone.1]
    exact congrFun (congrFun halike.stored space') key'

end Accesses

/-! ### Steps -/

/-- For each identity that has to go one removal is tried, whether or not others fail. -/
theorem foldl_evict_makes (c : Cache (Faulty σ)) (keys : List String) :
    ∃ removals, c.Makes removals (keys.foldl evict c) ∧
      removals.map (·.record) = keys.map (⟨.remove, c.dataSpace, ·⟩) ∧
      (keys.foldl evict c).index = c.index ∧
      ∀ space key, (keys.foldl evict c).stored? space key =
        if space = c.dataSpace ∧ removals.any (·.removes key) then none
        else c.stored? space key := by
  induction keys generalizing c with
  | nil => exact ⟨[], .refl c, rfl, rfl, by simp⟩
  | cons k keys ih =>
    obtain ⟨hfirst, hindex, htext⟩ :=
      c.putOrReport_makes c.dataSpace k none .evict rfl rfl
    obtain ⟨removals, hmakes, hrecords, hindex', htext'⟩ := ih (c.evict k)
    have hspace : (c.evict k).dataSpace = c.dataSpace := hfirst.dataSpace
    refine ⟨_, hfirst.trans hmakes, ?_, hindex'.trans hindex, fun space key => ?_⟩
    · rw [List.map_append, hrecords, hspace]
      rfl
    · rw [List.foldl_cons, htext', hspace, evict, htext, List.any_append]
      generalize removals.any (·.removes key) = later
      by_cases hplace : space = c.dataSpace
      · cases later <;> by_cases hkey : key = k <;>
          simp [hplace, hkey, LoggedAccess.removes, Ne.symm]
      · simp [hplace]

/-- The index is written to its place, unless that fails. -/
theorem writeIndex_makes (c : Cache (Faulty σ)) :
    ∃ fault, c.Makes [⟨⟨.set, c.indexSpace, indexKey⟩, fault⟩] c.writeIndex ∧
      c.writeIndex.index = c.index ∧ ∀ space key, c.writeIndex.stored? space key =
        if fault = none ∧ space = c.indexSpace ∧ key = indexKey then
          some (CacheEntry.encodeIndex c.index)
        else c.stored? space key :=
  ⟨_, c.putOrReport_makes c.indexSpace indexKey _ _ rfl (if_pos rfl)⟩

/-! ### Calls -/

/-- The text of a save is refused by the storage. -/
theorem save_of_fault {c : Cache (Faulty σ)} (hc : c.isEnabled = true) (identity : Identity)
    {error : StorageError}
    (h : c.storage.fault? ⟨.set, c.dataSpace, identity.cacheKey⟩ = some error) (text : String)
    (now : Int) :
    c.Makes [⟨⟨.set, c.dataSpace, identity.cacheKey⟩, some error⟩] (c.save identity text now) ∧
      c.Alike (c.save identity text now) := by
  obtain ⟨c', hput, hmakes, halike⟩ :=
    c.put_of_fault c.dataSpace identity.cacheKey (some text) rfl h
  rw [purpose_data] at hmakes
  simp only [save, hc, hput, Bool.not_true, Bool.false_eq_true, if_false]
  exact ⟨hmakes, halike.index, halike.stored⟩

/-- The index of `c'` is the stored one now, unless the access to it failed. -/
def Records (c : Cache (Faulty σ)) (fault : Option StorageError) (c' : Cache (Faulty σ)) : Prop :=
  c'.stored? c.indexSpace indexKey =
    if fault = none then some (CacheEntry.encodeIndex c'.index)
    else c.stored? c.indexSpace indexKey

/-- What a save leaves behind once the text is written: the index and the texts after as many
removals as there are identities too many, and an index that may not be written. -/
structure Saved (c : Cache (Faulty σ)) (key text : String) (now : Int)
    (removals : List LoggedAccess) (fault : Option StorageError) (c' : Cache (Faulty σ)) :
    Prop where
  makes : c.Makes (⟨⟨.set, c.dataSpace, key⟩, none⟩ :: removals ++
    [⟨⟨.set, c.indexSpace, indexKey⟩, fault⟩]) c'
  index : c'.index = (touched c.index key now).drop
    (excess { c with index := touched c.index key now })
  removed : removals.map (·.record) = ((touched c.index key now).take
    (excess { c with index := touched c.index key now })).map (⟨.remove, c.dataSpace, ·.key⟩)
  data : ∀ other, c'.stored? c.dataSpace other =
    if other = key then some text
    else if removals.any (·.removes other) then none else c.stored? c.dataSpace other
  record : c.Records fault c'

/-- If its text can be written, a save goes on to the removals and the index. -/
theorem save_of_none {c : Cache (Faulty σ)} (hc : c.isEnabled = true) (identity : Identity)
    (h : c.storage.fault? ⟨.set, c.dataSpace, identity.cacheKey⟩ = none) (text : String)
    (now : Int) : ∃ removals fault,
      Saved c identity.cacheKey text now removals fault (c.save identity text now) := by
  obtain ⟨c₁, hput, hmakes₁, hindex₁, htext₁⟩ :=
    c.put_of_none c.dataSpace identity.cacheKey (some text) rfl h
  -- The index is cut before the first removal is tried.
  let index := touched c.index identity.cacheKey now
  let n := excess { c with index }
  let c₂ := { c₁ with index := index.drop n }
  have hmakes₂ : c.Makes [⟨⟨.set, c.dataSpace, identity.cacheKey⟩, none⟩] c₂ :=
    hmakes₁.trans (makes_withIndex c₁ (index.drop n))
  obtain ⟨removals, hmakes₃, hremoved, hindex₃, htext₃⟩ :=
    c₂.foldl_evict_makes ((index.take n).map (·.key))
  let c₃ := ((index.take n).map (·.key)).foldl evict c₂
  obtain ⟨fault, hmakes₄, hindex₄, htext₄⟩ := c₃.writeIndex_makes
  have hmakes₃' : c.Makes _ c₃ := hmakes₂.trans hmakes₃
  have hexcess : excess { c₁ with index } = n := by
    simp only [excess, n, hmakes₁.capacity]
  have hsave : c.save identity text now = c₃.writeIndex := by
    simp only [save, hc, hput, Bool.not_true, Bool.false_eq_true, if_false, hindex₁, prune]
    rw [hexcess]
  have hdata : c₃.indexSpace ≠ c.dataSpace := by
    rw [hmakes₃'.indexSpace]
    exact c.indexSpace_ne_dataSpace
  rw [hsave]
  refine ⟨removals, fault, ?_, hindex₄.trans hindex₃, ?_, fun other => ?_, ?_⟩
  · rw [← hmakes₃'.indexSpace]
    exact hmakes₃'.trans hmakes₄
  · rw [hremoved, hmakes₂.dataSpace, List.map_map]
    rfl
  · rw [htext₄, if_neg fun h => hdata h.2.1.symm, htext₃, hmakes₂.dataSpace]
    -- The identity itself is none of those that have to go.
    have hkept : removals.any (·.removes identity.cacheKey) = false := by
      refine Bool.eq_false_iff.2 fun hremoved' => not_mem_evicted hc identity.cacheKey now ?_
      exact LoggedAccess.mem_of_any_removes hremoved hremoved'
    have htext : c₂.stored? c.dataSpace other = _ := htext₁ c.dataSpace other
    rw [htext]
    by_cases hother : other = identity.cacheKey
    · subst hother
      simp [hkept]
    · simp [hother]
  · have hspace : c.indexSpace = c₃.indexSpace := hmakes₃'.indexSpace.symm
    have htext : c₃.stored? c.indexSpace indexKey = c.stored? c.indexSpace indexKey := by
      have hne := c.indexSpace_ne_dataSpace
      rw [htext₃, hmakes₂.dataSpace, if_neg fun h => hne h.1]
      exact (htext₁ _ _).trans (if_neg fun h => hne h.1)
    rw [Records, htext₄, htext, hindex₄]
    simp [hspace]

/-- A load whose access fails finds nothing and touches nothing. -/
theorem load_of_fault {c : Cache (Faulty σ)} (hc : c.isEnabled = true) (identity : Identity)
    {error : StorageError}
    (h : c.storage.fault? ⟨.get, c.dataSpace, identity.cacheKey⟩ = some error) (now : Int) :
    ∃ c', c.load identity now = (none, c') ∧
      c.Makes [⟨⟨.get, c.dataSpace, identity.cacheKey⟩, some error⟩] c' ∧ c.Alike c' := by
  obtain ⟨c', hfetch, hmakes, halike⟩ := c.fetch_of_fault c.dataSpace identity.cacheKey h
  rw [purpose_data] at hmakes
  refine ⟨c'.report .load error, ?_, hmakes, halike.index, halike.stored⟩
  simp [load, hc, hfetch]

/-- Neither does one that finds no text. -/
theorem load_of_missing {c : Cache (Faulty σ)} (hc : c.isEnabled = true) (identity : Identity)
    (h : c.storage.fault? ⟨.get, c.dataSpace, identity.cacheKey⟩ = none)
    (htext : c.stored? c.dataSpace identity.cacheKey = none) (now : Int) :
    ∃ c', c.load identity now = (none, c') ∧
      c.Makes [⟨⟨.get, c.dataSpace, identity.cacheKey⟩, none⟩] c' ∧ c.Alike c' := by
  obtain ⟨c', hfetch, hmakes, halike⟩ := c.fetch_of_none c.dataSpace identity.cacheKey h
  refine ⟨c', ?_, hmakes, halike⟩
  simp [load, hc, hfetch, htext]

/-- What a load leaves behind that finds a text: the identity is the most recently used one, though
this may not get into the stored index. -/
structure Loaded (c : Cache (Faulty σ)) (key : String) (now : Int) (fault : Option StorageError)
    (c' : Cache (Faulty σ)) : Prop where
  makes : c.Makes
    [⟨⟨.get, c.dataSpace, key⟩, none⟩, ⟨⟨.set, c.indexSpace, indexKey⟩, fault⟩] c'
  index : c'.index = touched c.index key now
  data : ∀ other, c'.stored? c.dataSpace other = c.stored? c.dataSpace other
  record : c.Records fault c'

/-- A load that finds a text answers with it, whether the index can be written or not. -/
theorem load_of_found {c : Cache (Faulty σ)} (hc : c.isEnabled = true) (identity : Identity)
    (h : c.storage.fault? ⟨.get, c.dataSpace, identity.cacheKey⟩ = none) {text : String}
    (htext : c.stored? c.dataSpace identity.cacheKey = some text) (now : Int) :
    ∃ c' fault, c.load identity now = (some text, c') ∧
      Loaded c identity.cacheKey now fault c' := by
  obtain ⟨c₁, hfetch, hmakes₁, halike⟩ := c.fetch_of_none c.dataSpace identity.cacheKey h
  let c₂ := { c₁ with index := touched c.index identity.cacheKey now }
  have hmakes₂ : c.Makes _ c₂ := hmakes₁.trans (makes_withIndex c₁ _)
  obtain ⟨fault, hmakes₃, hindex, hstored⟩ := c₂.writeIndex_makes
  have hsame : c₂.stored? = c.stored? := halike.stored
  have hspace : c₂.indexSpace = c.indexSpace := hmakes₂.indexSpace
  refine ⟨c₂.writeIndex, fault, ?_, ?_, hindex, fun other => ?_, ?_⟩
  · simp only [load, hc, hfetch, htext, halike.index, Bool.not_true, Bool.false_eq_true, if_false]
    rfl
  · rw [← hspace]
    exact hmakes₂.trans hmakes₃
  · rw [hstored, hspace, if_neg fun h => c.indexSpace_ne_dataSpace h.2.1.symm, hsame]
  · rw [Records, hstored, hspace, hindex, hsame]
    simp

/-- A save changes nothing, or its text is written. -/
theorem save_cases (c : Cache (Faulty σ)) (identity : Identity) (text : String) (now : Int) :
    (∃ accesses, c.Makes accesses (c.save identity text now) ∧
      c.Alike (c.save identity text now)) ∨
    (c.isEnabled = true ∧ ∃ removals fault,
      Saved c identity.cacheKey text now removals fault (c.save identity text now)) := by
  cases hc : c.isEnabled with
  | false =>
    rw [save_of_disabled hc]
    exact .inl ⟨[], .refl c, rfl, rfl⟩
  | true =>
    cases h : c.storage.fault? ⟨.set, c.dataSpace, identity.cacheKey⟩ with
    | some error => exact .inl ⟨_, save_of_fault hc identity h text now⟩
    | none => exact .inr ⟨rfl, save_of_none hc identity h text now⟩

/-- A load changes nothing, or it finds a text. -/
theorem load_cases (c : Cache (Faulty σ)) (identity : Identity) (now : Int) :
    ((c.load identity now).1 = none ∧ ∃ accesses, c.Makes accesses (c.load identity now).2 ∧
      c.Alike (c.load identity now).2) ∨
    (c.isEnabled = true ∧ ∃ text fault, c.stored? c.dataSpace identity.cacheKey = some text ∧
      (c.load identity now).1 = some text ∧
      Loaded c identity.cacheKey now fault (c.load identity now).2) := by
  cases hc : c.isEnabled with
  | false =>
    rw [load_of_disabled hc]
    exact .inl ⟨rfl, [], .refl c, rfl, rfl⟩
  | true =>
    cases h : c.storage.fault? ⟨.get, c.dataSpace, identity.cacheKey⟩ with
    | some error =>
      obtain ⟨c', hload, hmakes, halike⟩ := load_of_fault hc identity h now
      rw [hload]
      exact .inl ⟨rfl, _, hmakes, halike⟩
    | none =>
      cases htext : c.stored? c.dataSpace identity.cacheKey with
      | none =>
        obtain ⟨c', hload, hmakes, halike⟩ := load_of_missing hc identity h htext now
        rw [hload]
        exact .inl ⟨rfl, _, hmakes, halike⟩
      | some text =>
        obtain ⟨c', fault, hload, hloaded⟩ := load_of_found hc identity h htext now
        rw [hload]
        exact .inr ⟨rfl, text, fault, rfl, rfl, hloaded⟩

theorem save_makes (c : Cache (Faulty σ)) (identity : Identity) (text : String) (now : Int) :
    ∃ accesses, c.Makes accesses (c.save identity text now) := by
  rcases c.save_cases identity text now with ⟨accesses, hmakes, -⟩ | ⟨-, _, _, hsaved⟩
  · exact ⟨accesses, hmakes⟩
  · exact ⟨_, hsaved.makes⟩

theorem load_makes (c : Cache (Faulty σ)) (identity : Identity) (now : Int) :
    ∃ accesses, c.Makes accesses (c.load identity now).2 := by
  rcases c.load_cases identity now with ⟨-, accesses, hmakes, -⟩ | ⟨-, _, _, -, -, hloaded⟩
  · exact ⟨accesses, hmakes⟩
  · exact ⟨_, hloaded.makes⟩

/-- The failure of a text that was found but cannot be read. -/
def unreadable? (answer : Option String) : Option CacheFailure :=
  answer.bind fun text =>
    match Snapshot.decode text with
    | .ok _ => none
    | .error fault => some ⟨.decode, .ofFault fault⟩

omit [ReliableStorage σ] in
/-- A snapshot is loaded as its text is; one more report may come of the text. -/
theorem loadSnapshot_eq (c : Cache (Faulty σ)) (identity : Identity) (now : Int) :
    c.loadSnapshot identity now =
      ((c.load identity now).1.bind fun text => (Snapshot.decode text).toOption.map .rekeyed,
        { (c.load identity now).2 with
          failures := (c.load identity now).2.failures ++
            (unreadable? (c.load identity now).1).toList }) := by
  rw [loadSnapshot]
  generalize c.load identity now = loaded
  obtain ⟨answer, c'⟩ := loaded
  cases answer with
  | none => simp [unreadable?]
  | some text =>
    simp only [unreadable?, Option.bind_some]
    cases Snapshot.decode text with
    | ok snapshot => simp [Except.toOption]
    | error fault => rfl

/-- A new cache over the same storage, which begins with the stored index if that can be read. -/
structure Reopened (c : Cache (Faulty σ)) (capacity : Int) (c' : Cache (Faulty σ)) : Prop where
  name : c'.name = c.name
  capacity : c'.capacity = capacity
  plan : c'.storage.plan = c.storage.plan
  stored : c'.stored? = c.stored?
  index : c'.index =
    if c.storage.fault? ⟨.get, c.indexSpace, indexKey⟩ = none then c.recorded else []

/-- A cache that is opened anew makes one access, to the index. -/
theorem reopened (c : Cache (Faulty σ)) (capacity : Int) (h : capacity ≠ 0) :
    Reopened c capacity (mount c.storage c.name capacity) := by
  let b : Cache (Faulty σ) := { storage := c.storage, name := c.name, capacity }
  have hmount : mount c.storage c.name capacity = b.readIndex :=
    if_pos (by simpa [isEnabled] using h)
  rw [hmount, readIndex]
  cases hfault : b.storage.fault? ⟨.get, b.indexSpace, indexKey⟩ with
  | some error =>
    obtain ⟨c', hfetch, hmakes, halike⟩ := b.fetch_of_fault b.indexSpace indexKey hfault
    rw [hfetch]
    refine ⟨hmakes.name, hmakes.capacity, hmakes.plan, halike.stored, ?_⟩
    have hsome : c.storage.fault? ⟨.get, c.indexSpace, indexKey⟩ = some error := hfault
    rw [if_neg (by rw [hsome]; exact Option.some_ne_none error)]
    exact halike.index
  | none =>
    obtain ⟨c', hfetch, hmakes, halike⟩ := b.fetch_of_none b.indexSpace indexKey hfault
    have hnone : c.storage.fault? ⟨.get, c.indexSpace, indexKey⟩ = none := hfault
    have hrecorded : c.recorded = ((b.stored? b.indexSpace indexKey).bind fun text =>
      (CacheEntry.decodeIndex text).toOption).getD [] := rfl
    rw [hfetch]
    cases htext : b.stored? b.indexSpace indexKey with
    | none =>
      refine ⟨hmakes.name, hmakes.capacity, hmakes.plan, halike.stored, ?_⟩
      rw [if_pos hnone, hrecorded, htext]
      exact halike.index
    | some text =>
      rw [htext, Option.bind_some] at hrecorded
      simp only
      cases hindex : CacheEntry.decodeIndex text with
      | ok index =>
        refine ⟨hmakes.name, hmakes.capacity, hmakes.plan, halike.stored, ?_⟩
        rw [if_pos hnone, hrecorded, hindex]
        rfl
      | error fault =>
        refine ⟨hmakes.name, hmakes.capacity, hmakes.plan, halike.stored, ?_⟩
        rw [if_pos hnone, hrecorded, hindex]
        exact halike.index

end Cache

end LiveFlags
