import LiveFlags.Proofs.Cache.Faulty
import LiveFlags.Proofs.Cache.Recency
import Mathlib.Data.Set.Card

/-!
# The capacity of a cache whose storage fails

A cache with room for `n` identities finds those that have to go in its index. So it keeps within
its bounds as long as each identity with a stored text is in the index, and in the stored index as
well, with which a new cache begins (`Accounted`). Texts that cannot be read or written do not
change that. Where a removal fails, however, or an access to the index, a text may stay behind that
no index knows. It never goes: it takes up room beside `n` others, and when it is loaded, its
identity comes back to an index that is full, and loading does not make room.

Main statement: `keepsBounds_iff`.
-/

namespace LiveFlags

/-- A cache that is opened has the given capacity. -/
def CacheCall.HasCapacity (n : Nat) : CacheCall → Prop
  | .reopen capacity => capacity = n
  | _ => True

namespace Cache

variable {σ : Type}

/-! ### Entries that are used -/

theorem mem_keys_touched {index : List CacheEntry} {key other : String} {now : Int} :
    other ∈ (touched index key now).map (·.key) ↔ other = key ∨ other ∈ index.map (·.key) := by
  rw [keys_touched]
  by_cases h : other = key <;> simp [h]

theorem length_touched_le {index : List CacheEntry} {key : String} (now : Int)
    (h : key ∈ index.map (·.key)) : (touched index key now).length ≤ index.length := by
  obtain ⟨e, he, hkey⟩ := List.mem_map.1 h
  have hlt : (index.filter (·.key != key)).length < index.length := by
    refine List.length_filter_lt_length_iff_exists.2 ⟨e, he, ?_⟩
    simp [hkey]
  simpa [touched] using hlt

theorem length_touched {index : List CacheEntry} {key : String} (now : Int)
    (h : key ∉ index.map (·.key)) : (touched index key now).length = index.length + 1 := by
  have hall : index.filter (·.key != key) = index := by
    refine List.filter_eq_self.2 fun e he => ?_
    have hne : e.key ≠ key := fun heq => h (heq ▸ List.mem_map_of_mem he)
    simpa using hne
  simp [touched, hall]

/-! ### Bounds -/

/-- Accesses to the index and removals do not fail, whatever else does. -/
def SparesIndex (space : String) (plan : Nat → AccessRecord → Option StorageError) : Prop :=
  ∀ i record, plan i record ≠ none → record.space = space ∧ record.kind ≠ .remove

/-- The cache with another plan for the accesses to come. -/
def under (c : Cache (Faulty σ)) (plan : Nat → AccessRecord → Option StorageError) :
    Cache (Faulty σ) :=
  { c with storage := { c.storage with plan } }

/-- The accesses of `c` that `b` had not made yet. -/
def accessesSince (c b : Cache (Faulty σ)) : List LoggedAccess :=
  c.storage.log.drop b.storage.log.length

variable [Storage σ] [ReliableStorage σ]

/-- The cache keys under which a text is stored. -/
def occupied (c : Cache (Faulty σ)) : Set String :=
  {key | c.stored? c.dataSpace key ≠ none}

/-- The cache is within its bounds: at most `n` identities are in the index, and after a save of
which no access fails, at most `n` texts are stored. -/
structure InBounds (n : Nat) (c : Cache (Faulty σ)) : Prop where
  identities : c.cachedIdentities.length ≤ n
  texts : ∀ identity text (now : Int64),
    (∀ a ∈ (c.save identity text now.toInt).accessesSince c, a.fault = none) →
      (c.save identity text now.toInt).occupied.encard ≤ n

/-- Whatever calls come, the cache is within its bounds. -/
def KeepsBounds (n : Nat) (c : Cache (Faulty σ)) : Prop :=
  ∀ calls : List CacheCall, (∀ call ∈ calls, call.HasCapacity n) → InBounds n (c.run calls).2

/-- An index has at most `n` entries and names each identity with a stored text. -/
structure Covers (n : Nat) (c : Cache (Faulty σ)) (index : List CacheEntry) : Prop where
  length_le : index.length ≤ n
  mem : ∀ key ∈ c.occupied, key ∈ index.map (·.key)

/-- The index and the stored index account for all stored texts. -/
structure Accounted (n : Nat) (c : Cache (Faulty σ)) : Prop where
  index : c.Covers n c.index
  recorded : c.Covers n c.recorded

/-! ### Single calls -/

/-- A call goes on under the same name and with the same plan. -/
theorem step_goesOn (c : Cache (Faulty σ)) {n : Nat} (hn : 0 < n) {call : CacheCall}
    (hcall : call.HasCapacity n) :
    (c.step call).2.name = c.name ∧ (c.step call).2.storage.plan = c.storage.plan := by
  cases call with
  | save identity text now =>
    obtain ⟨accesses, hmakes⟩ := c.save_makes identity text now.toInt
    exact ⟨hmakes.name, hmakes.plan⟩
  | load identity now =>
    obtain ⟨accesses, hmakes⟩ := c.load_makes identity now.toInt
    exact ⟨hmakes.name, hmakes.plan⟩
  | reopen capacity =>
    have hcap : capacity = n := hcall
    have hreopened := c.reopened capacity (by omega)
    exact ⟨hreopened.name, hreopened.plan⟩

theorem run_goesOn (c : Cache (Faulty σ)) {n : Nat} (hn : 0 < n) {calls : List CacheCall}
    (hcalls : ∀ call ∈ calls, call.HasCapacity n) :
    (c.run calls).2.name = c.name ∧ (c.run calls).2.storage.plan = c.storage.plan := by
  induction calls generalizing c with
  | nil => exact ⟨rfl, rfl⟩
  | cons call calls ih =>
    obtain ⟨hname, hplan⟩ := c.step_goesOn hn (hcalls call List.mem_cons_self)
    obtain ⟨hname', hplan'⟩ :=
      ih (c.step call).2 fun call' hmem => hcalls call' (List.mem_cons_of_mem _ hmem)
    exact ⟨hname'.trans hname, hplan'.trans hplan⟩

/-! ### What is stored -/

section Stored

variable {c c' : Cache (Faulty σ)}

theorem occupied_eq (hname : c'.name = c.name) (hstored : c'.stored? = c.stored?) :
    c'.occupied = c.occupied := by
  simp only [occupied, dataSpace, hname, hstored]

theorem recorded_eq (hname : c'.name = c.name) (hstored : c'.stored? = c.stored?) :
    c'.recorded = c.recorded := by
  simp only [recorded, indexSpace, hname, hstored]

/-- An index that is written can be read back. -/
theorem recorded_of_write {fault : Option StorageError} (hname : c'.name = c.name)
    (hdated : ∀ e ∈ c'.index, e.IsDated) (hrecord : c.Records fault c') :
    c'.recorded = if fault = none then c'.index else c.recorded := by
  have hspace : c'.indexSpace = c.indexSpace := by rw [indexSpace, indexSpace, hname]
  have htext : c'.stored? c.indexSpace indexKey = _ := hrecord
  rw [recorded, hspace, htext]
  split
  · simp [CacheEntry.decodeIndex_encodeIndex hdated, Except.toOption]
  · rfl

/-- An index that names each identity with a stored text bounds their number. -/
theorem Covers.encard_le {n : Nat} {index : List CacheEntry} (h : Covers n c index) :
    c.occupied.encard ≤ n := by
  have hsub : c.occupied ⊆ ((index.map (·.key)).toFinset : Set String) := by
    intro key hkey
    simpa using h.mem key hkey
  calc c.occupied.encard
      ≤ ((index.map (·.key)).toFinset : Set String).encard := Set.encard_le_encard hsub
    _ = (index.map (·.key)).toFinset.card := Set.encard_coe_eq_coe_finsetCard _
    _ ≤ n := by
      have hcard := List.toFinset_card_le (index.map (·.key))
      rw [List.length_map] at hcard
      exact_mod_cast hcard.trans h.length_le

end Stored

/-! ### What a run keeps -/

/-- The cache has the capacity `n` and knows times as a clock makes them. -/
structure Regular (n : Nat) (c : Cache (Faulty σ)) : Prop where
  capacity : c.capacity = n
  index : ∀ e ∈ c.index, e.IsDated
  recorded : ∀ e ∈ c.recorded, e.IsDated

section Steps

variable {n : Nat} {c c' : Cache (Faulty σ)}

/-- Writing the index makes the stored one as readable as it is itself. -/
theorem Regular.of_write (h : Regular n c) {fault : Option StorageError}
    (hcap : c'.capacity = c.capacity) (hname : c'.name = c.name)
    (hdated : ∀ e ∈ c'.index, e.IsDated) (hrecord : c.Records fault c') : Regular n c' := by
  refine ⟨hcap.trans h.capacity, hdated, ?_⟩
  rw [recorded_of_write hname hdated hrecord]
  split
  · exact hdated
  · exact h.recorded

theorem isDated_of_saved (h : Regular n c) {key text : String} {now : Int64}
    {removals : List LoggedAccess} {fault : Option StorageError}
    (hsaved : Saved c key text now.toInt removals fault c') : ∀ e ∈ c'.index, e.IsDated := by
  intro e he
  rw [hsaved.index] at he
  exact isDated_touched h.index key now e (List.mem_of_mem_drop he)

theorem isDated_of_loaded (h : Regular n c) {key : String} {now : Int64}
    {fault : Option StorageError} (hloaded : Loaded c key now.toInt fault c') :
    ∀ e ∈ c'.index, e.IsDated := by
  rw [hloaded.index]
  exact isDated_touched h.index key now

theorem Regular.of_alike (h : Regular n c) {accesses : List LoggedAccess}
    (hmakes : c.Makes accesses c') (halike : c.Alike c') : Regular n c' := by
  refine ⟨hmakes.capacity.trans h.capacity, ?_, ?_⟩
  · rw [halike.index]
    exact h.index
  · rw [recorded_eq hmakes.name halike.stored]
    exact h.recorded

theorem Regular.of_reopened {capacity : Int} (h : ∀ e ∈ c.recorded, e.IsDated)
    (hcap : capacity = n) (hreopened : Reopened c capacity c') : Regular n c' := by
  refine ⟨hreopened.capacity.trans hcap, ?_, ?_⟩
  · rw [hreopened.index]
    split
    · exact h
    · nofun
  · rw [recorded_eq hreopened.name hreopened.stored]
    exact h

theorem Regular.step (h : Regular n c) (hn : 0 < n) {call : CacheCall}
    (hcall : call.HasCapacity n) : Regular n (c.step call).2 := by
  cases call with
  | save identity text now =>
    rcases c.save_cases identity text now.toInt with
      ⟨accesses, hmakes, halike⟩ | ⟨-, removals, fault, hsaved⟩
    · exact h.of_alike hmakes halike
    · exact h.of_write hsaved.makes.capacity hsaved.makes.name (isDated_of_saved h hsaved)
        hsaved.record
  | load identity now =>
    rcases c.load_cases identity now.toInt with
      ⟨-, accesses, hmakes, halike⟩ | ⟨-, text, fault, -, -, hloaded⟩
    · exact h.of_alike hmakes halike
    · exact h.of_write hloaded.makes.capacity hloaded.makes.name (isDated_of_loaded h hloaded)
        hloaded.record
  | reopen capacity =>
    have hcap : capacity = n := hcall
    exact .of_reopened h.recorded hcap (c.reopened _ (by omega))

/-- A run keeps a cache regular, whatever fails. -/
theorem Regular.run (h : Regular n c) (hn : 0 < n) {calls : List CacheCall}
    (hcalls : ∀ call ∈ calls, call.HasCapacity n) : Regular n (c.run calls).2 := by
  induction calls generalizing c with
  | nil => exact h
  | cons call calls ih =>
    have hnext := h.step hn (hcalls call List.mem_cons_self)
    exact ih hnext fun call' hmem => hcalls call' (List.mem_cons_of_mem _ hmem)

omit [Storage σ] [ReliableStorage σ] in
/-- Where the index is spared, only the texts of identities are missed. -/
theorem Makes.fault_eq_none {accesses : List LoggedAccess} (hmakes : c.Makes accesses c')
    (hspares : SparesIndex c.dataSpace c.storage.plan) {a : LoggedAccess} (ha : a ∈ accesses)
    (hrecord : a.record.space = c.indexSpace ∨ a.record.kind = .remove) : a.fault = none := by
  obtain ⟨i, hfault⟩ := hmakes.planned a ha
  by_contra hne
  rw [hfault] at hne
  obtain ⟨hspace, hkind⟩ := hspares i a.record hne
  rcases hrecord with hindex | hremove
  · exact c.indexSpace_ne_dataSpace (hindex.symm.trans hspace)
  · exact hkind hremove

/-- Whether an index covers the texts depends on nothing but these. -/
theorem Covers.of_stored {index : List CacheEntry} (h : Covers n c index)
    (hname : c'.name = c.name) (hstored : c'.stored? = c.stored?) : Covers n c' index := by
  refine ⟨h.length_le, ?_⟩
  rw [occupied_eq hname hstored]
  exact h.mem

/-- After a save the texts that are not in the index are gone. -/
theorem Covers.of_saved (h : Covers n c c.index) (hc : c.isEnabled = true)
    (hcap : c.capacity = n) {identity : Identity} {text : String} {now : Int}
    {removals : List LoggedAccess} {fault : Option StorageError}
    (hsaved : Saved c identity.cacheKey text now removals fault c')
    (hremovals : ∀ a ∈ removals, a.fault = none) : Covers n c' c'.index := by
  let entries := touched c.index identity.cacheKey now
  let k := excess { c with index := entries }
  have hindex : c'.index = entries.drop k := hsaved.index
  have hremoved : removals.map (·.record) =
      ((entries.take k).map (·.key)).map (⟨.remove, c.dataSpace, ·⟩) := by
    rw [hsaved.removed, List.map_map]
    rfl
  refine ⟨?_, fun key hkey => ?_⟩
  · have hk : k = entries.length - n := by
      simp [k, excess, hcap]
    rw [hindex, List.length_drop]
    omega
  · -- Whoever has a text was in the index before, or has just been saved, and did not have to go.
    have htext : c'.stored? c.dataSpace key ≠ none := by
      rw [← hsaved.makes.dataSpace]
      exact hkey
    rw [hsaved.data] at htext
    have hmem : key ∈ entries.map (·.key) := by
      refine mem_keys_touched.2 ?_
      by_cases heq : key = identity.cacheKey
      · exact .inl heq
      · rw [if_neg heq] at htext
        refine .inr (h.mem key ?_)
        split at htext
        · exact absurd rfl htext
        · exact htext
    have hstays : key ∉ (entries.take k).map (·.key) := by
      by_cases heq : key = identity.cacheKey
      · rw [heq]
        exact not_mem_evicted hc identity.cacheKey now
      · intro hgone
        rw [if_neg heq, if_pos (LoggedAccess.any_removes_of_mem hremoved hremovals hgone)] at htext
        exact htext rfl
    rw [← List.take_append_drop k entries, List.map_append, List.mem_append] at hmem
    rw [hindex]
    exact hmem.resolve_left hstays

/-- To load the text of an identity that is in the index makes it longer for nobody. -/
theorem Covers.of_loaded (h : Covers n c c.index) {key : String} {now : Int}
    {fault : Option StorageError} (hkey : key ∈ c.occupied)
    (hloaded : Loaded c key now fault c') : Covers n c' c'.index := by
  refine ⟨?_, fun other hother => ?_⟩
  · rw [hloaded.index]
    exact (length_touched_le now (h.mem key hkey)).trans h.length_le
  · have htext : c'.stored? c.dataSpace other ≠ none := by
      rw [← hloaded.makes.dataSpace]
      exact hother
    rw [hloaded.data] at htext
    rw [hloaded.index]
    exact mem_keys_touched.2 (.inr (h.mem other htext))

theorem Accounted.of_stored (h : Accounted n c) (hname : c'.name = c.name)
    (hstored : c'.stored? = c.stored?) (hindex : c'.index = c.index ∨ c'.index = c.recorded) :
    Accounted n c' := by
  have hrecorded : Covers n c' c'.recorded := by
    rw [recorded_eq hname hstored]
    exact h.recorded.of_stored hname hstored
  rcases hindex with hindex | hindex
  · refine ⟨?_, hrecorded⟩
    rw [hindex]
    exact h.index.of_stored hname hstored
  · refine ⟨?_, hrecorded⟩
    rw [hindex]
    exact h.recorded.of_stored hname hstored

/-- Where the index is spared, all stored texts stay accounted for. -/
theorem Accounted.step (h : Accounted n c) (hregular : Regular n c) (hn : 0 < n)
    (hspares : SparesIndex c.dataSpace c.storage.plan) {call : CacheCall}
    (hcall : call.HasCapacity n) : Accounted n (c.step call).2 := by
  cases call with
  | save identity text now =>
    rcases c.save_cases identity text now.toInt with
      ⟨accesses, hmakes, halike⟩ | ⟨hc, removals, fault, hsaved⟩
    · exact h.of_stored hmakes.name halike.stored (.inl halike.index)
    · -- What leaves the index leaves the storage as well, since no removal fails.
      have hremovals : ∀ a ∈ removals, a.fault = none := by
        intro a ha
        have hrecord := hsaved.removed ▸ List.mem_map_of_mem ha
        obtain ⟨e, -, hrecord⟩ := List.mem_map.1 hrecord
        refine hsaved.makes.fault_eq_none hspares (a := a) ?_ (.inr ?_)
        · simp [ha]
        · rw [← hrecord]
      have hfault : fault = none := by
        refine hsaved.makes.fault_eq_none hspares (a := ⟨⟨.set, c.indexSpace, indexKey⟩, fault⟩) ?_
          (.inl rfl)
        exact List.mem_append_right _ List.mem_cons_self
      have hcovers := h.index.of_saved hc hregular.capacity hsaved hremovals
      have hrecorded :=
        recorded_of_write hsaved.makes.name (isDated_of_saved hregular hsaved) hsaved.record
      rw [if_pos hfault] at hrecorded
      exact ⟨hcovers, hrecorded ▸ hcovers⟩
  | load identity now =>
    rcases c.load_cases identity now.toInt with
      ⟨-, accesses, hmakes, halike⟩ | ⟨-, text, fault, htext, -, hloaded⟩
    · exact h.of_stored hmakes.name halike.stored (.inl halike.index)
    · have hkey : identity.cacheKey ∈ c.occupied := by
        change c.stored? c.dataSpace identity.cacheKey ≠ none
        rw [htext]
        nofun
      have hfault : fault = none := by
        refine hloaded.makes.fault_eq_none hspares (a := ⟨⟨.set, c.indexSpace, indexKey⟩, fault⟩) ?_
          (.inl rfl)
        exact List.mem_cons_of_mem _ List.mem_cons_self
      have hcovers := h.index.of_loaded hkey hloaded
      have hrecorded :=
        recorded_of_write hloaded.makes.name (isDated_of_loaded hregular hloaded) hloaded.record
      rw [if_pos hfault] at hrecorded
      exact ⟨hcovers, hrecorded ▸ hcovers⟩
  | reopen capacity =>
    have hcap : capacity = n := hcall
    have hreopened := c.reopened capacity (by omega)
    refine h.of_stored hreopened.name hreopened.stored (.inr ?_)
    have hfault : c.storage.fault? ⟨.get, c.indexSpace, indexKey⟩ = none := by
      by_contra hne
      exact c.indexSpace_ne_dataSpace (hspares _ _ hne).1
    exact hreopened.index.trans (if_pos hfault)

/-- Where the index and removals are spared, a run keeps all texts accounted for. -/
theorem Accounted.run (h : Accounted n c) (hregular : Regular n c) (hn : 0 < n)
    (hspares : SparesIndex c.dataSpace c.storage.plan) {calls : List CacheCall}
    (hcalls : ∀ call ∈ calls, call.HasCapacity n) : Accounted n (c.run calls).2 := by
  induction calls generalizing c with
  | nil => exact h
  | cons call calls ih =>
    have hcall := hcalls call List.mem_cons_self
    obtain ⟨hname, hplan⟩ := c.step_goesOn hn hcall
    refine ih (h.step hregular hn hspares hcall) (hregular.step hn hcall) ?_
      fun call' hmem => hcalls call' (List.mem_cons_of_mem _ hmem)
    rw [dataSpace, hname, hplan]
    exact hspares

/-- A cache that accounts for all stored texts is within its bounds, and stays there. -/
theorem Accounted.keepsBounds (h : Accounted n c) (hregular : Regular n c) (hn : 0 < n)
    (hspares : SparesIndex c.dataSpace c.storage.plan) : KeepsBounds n c := by
  intro calls hcalls
  have hlast := h.run hregular hn hspares hcalls
  refine ⟨?_, fun identity text now _ => ?_⟩
  · rw [cachedIdentities, List.length_map]
    exact hlast.index.length_le
  · obtain ⟨hname, hplan⟩ := c.run_goesOn hn hcalls
    have hspares' : SparesIndex (c.run calls).2.dataSpace (c.run calls).2.storage.plan := by
      rw [dataSpace, hname, hplan]
      exact hspares
    have hnext : Accounted n ((c.run calls).2.step (.save identity text now)).2 :=
      hlast.step (hregular.run hn hcalls) hn hspares' trivial
    exact hnext.index.encard_le

end Steps

/-! ### Texts that no index knows -/

section Strays

variable {n : Nat} {c : Cache (Faulty σ)}

/-- Keeping the bounds is about all calls to come, so no call can end it. -/
theorem KeepsBounds.step (h : KeepsBounds n c) (call : CacheCall) (hcall : call.HasCapacity n) :
    KeepsBounds n (c.step call).2 := by
  intro calls hcalls
  exact h (call :: calls) (List.forall_mem_cons.2 ⟨hcall, hcalls⟩)

/-- While there is room for another identity, nothing has to go for it. -/
theorem Saved.of_room {c' : Cache (Faulty σ)} {key text : String} {now : Int}
    {removals : List LoggedAccess} {fault : Option StorageError}
    (h : Saved c key text now removals fault c') (hcap : c.capacity = n)
    (hroom : c.index.length < n) (hkey : key ∉ c.index.map (·.key)) :
    c'.index = touched c.index key now ∧ removals = [] := by
  have hexcess : excess { c with index := touched c.index key now } = 0 := by
    simp only [excess, hcap, length_touched now hkey]
    split <;> omega
  have hindex := h.index
  have hremoved := h.removed
  rw [hexcess, List.drop_zero] at hindex
  rw [hexcess, List.take_zero, List.map_nil, List.map_eq_nil_iff] at hremoved
  exact ⟨hindex, hremoved⟩

/-- A text that is not in the index breaks the bounds although nothing fails any more: the index is
filled up with others, and then the text is loaded. -/
theorem not_keepsBounds_of_stray (hcap : c.capacity = n) (hn : 0 < n)
    (hplan : ∀ i record, c.storage.plan i record = none) {key : String} (hkey : key ∈ c.occupied)
    (hstray : key ∉ c.index.map (·.key)) : ¬ KeepsBounds n c := by
  have hc : c.isEnabled = true := by
    simp only [isEnabled, hcap, decide_eq_true_eq]
    omega
  intro hkeeps
  induction hroom : n - c.index.length generalizing c with
  | zero =>
    -- The index is full: loading the text makes it one entry too long.
    obtain ⟨text, htext⟩ := Option.ne_none_iff_exists'.1 hkey
    obtain ⟨c', fault, hload, hloaded⟩ := load_of_found hc { key } (hplan _ _) htext 0
    have hlast : (c.step (.load { key } 0)).2 = c' := congrArg Prod.snd hload
    have hbound := (hkeeps.step (.load { key } 0) trivial [] (List.forall_mem_nil _)).identities
    rw [run, hlast, cachedIdentities, List.length_map, hloaded.index] at hbound
    have hlength : (touched c.index key 0).length = c.index.length + 1 := length_touched 0 hstray
    have hle : (touched c.index key 0).length ≤ n := hbound
    omega
  | succ room ih =>
    -- There is room for somebody new, who does not make the text known.
    obtain ⟨fresh, hfresh⟩ := Infinite.exists_notMem_finset (key :: c.index.map (·.key)).toFinset
    rw [List.mem_toFinset, List.mem_cons, not_or] at hfresh
    obtain ⟨removals, fault, hsaved⟩ := save_of_none hc { key := fresh } (hplan _ _) "" 0
    obtain ⟨hindex, rfl⟩ := hsaved.of_room hcap (by omega) hfresh.2
    have hkeys : (c.save { key := fresh } "" 0).index = touched c.index fresh 0 := hindex
    have hnext := hkeeps.step (.save { key := fresh } "" 0) trivial
    refine ih (hsaved.makes.capacity.trans hcap) ?_ ?_ ?_ ?_ hnext ?_
    · rw [hsaved.makes.plan]
      exact hplan
    · change (c.save { key := fresh } "" 0).stored? _ key ≠ none
      rw [hsaved.makes.dataSpace, hsaved.data]
      split
      · exact Option.some_ne_none ""
      · exact hkey
    · rw [hkeys, mem_keys_touched, not_or]
      exact ⟨Ne.symm hfresh.1, hstray⟩
    · exact hsaved.makes.isEnabled.trans hc
    · rw [hkeys, length_touched 0 hfresh.2]
      omega

/-- If the bounds are kept where nothing fails, the index names each identity with a text: one that
it does not name could be loaded when the index is full. -/
theorem covers_of_keepsBounds (hcap : c.capacity = n) (hn : 0 < n)
    (hplan : ∀ i record, c.storage.plan i record = none) (h : KeepsBounds n c) :
    Covers n c c.index := by
  refine ⟨?_, fun key hkey => ?_⟩
  · have hlength := (h [] nofun).identities
    rwa [run, cachedIdentities, List.length_map] at hlength
  · by_contra hstray
    exact not_keepsBounds_of_stray hcap hn hplan hkey hstray h

/-- The same holds of the stored index, since the cache may be opened anew. -/
theorem accounted_of_keepsBounds (hcap : c.capacity = n) (hn : 0 < n)
    (hplan : ∀ i record, c.storage.plan i record = none) (h : KeepsBounds n c) :
    Accounted n c := by
  refine ⟨covers_of_keepsBounds hcap hn hplan h, ?_⟩
  -- The stored index is the one with which the cache begins when it is opened again.
  have hreopened := c.reopened n (by omega)
  have hnext : KeepsBounds n (mount c.storage c.name n) := h.step (.reopen n) rfl
  have hcovers : Covers n (mount c.storage c.name n) (mount c.storage c.name n).index := by
    refine covers_of_keepsBounds hreopened.capacity hn ?_ hnext
    intro i record
    rw [← hplan i record]
    exact congrFun (congrFun hreopened.plan i) record
  have hindex : (mount c.storage c.name n).index = c.recorded :=
    hreopened.index.trans (if_pos (hplan _ _))
  rw [hindex] at hcovers
  exact hcovers.of_stored hreopened.name.symm hreopened.stored.symm

/-- What is stored does not depend on what will fail. -/
theorem accounted_under (plan : Nat → AccessRecord → Option StorageError) :
    Accounted n (c.under plan) ↔ Accounted n c :=
  ⟨fun h => ⟨⟨h.index.length_le, h.index.mem⟩, ⟨h.recorded.length_le, h.recorded.mem⟩⟩,
    fun h => ⟨⟨h.index.length_le, h.index.mem⟩, ⟨h.recorded.length_le, h.recorded.mem⟩⟩⟩

end Strays

/-! ### Runs from an empty storage -/

section Runs

variable {storage : Faulty σ} (hempty : ∀ space key, storage.text? space key = none)
  (name : String) {n : Nat} (hn : 0 < n)

include hempty hn

/-- A cache over an empty storage knows of no identity, and there is none. -/
theorem regular_mount : Regular n (mount storage name n) ∧ Accounted n (mount storage name n) := by
  let c : Cache (Faulty σ) := { storage, name, capacity := n }
  have hreopened : Reopened c n (mount storage name n) := c.reopened n (by omega)
  have hrecorded : c.recorded = [] := by
    have hnone : c.stored? c.indexSpace indexKey = none := hempty _ _
    rw [recorded, hnone]
    rfl
  have hoccupied : c.occupied = ∅ := by
    refine Set.eq_empty_of_forall_notMem fun key hkey => ?_
    exact hkey (hempty _ _)
  have hcovers : Covers n c [] := ⟨Nat.zero_le n, by rw [hoccupied]; nofun⟩
  have haccounted : Accounted n c := ⟨hcovers, by rw [hrecorded]; exact hcovers⟩
  refine ⟨.of_reopened (by rw [hrecorded]; nofun) rfl hreopened, ?_⟩
  refine haccounted.of_stored hreopened.name hreopened.stored (.inl ?_)
  rw [hreopened.index, hrecorded, ite_self]

/-- **A cache keeps its bounds as long as it accounts for all stored texts, and not any longer.**
From where a run over an empty storage has led, with whatever failures on the way, the bounds hold
for all time, come what may but failures of removals and of the index, just if all stored texts are
accounted for. -/
theorem keepsBounds_iff {before : List CacheCall}
    (hbefore : ∀ call ∈ before, call.HasCapacity n) :
    (∀ plan, SparesIndex (name ++ "_flags") plan →
        KeepsBounds n (((mount storage name n).run before).2.under plan)) ↔
      Accounted n ((mount storage name n).run before).2 := by
  have hregular := (regular_mount hempty name hn).1.run hn hbefore
  have hspace : ((mount storage name n).run before).2.dataSpace = name ++ "_flags" := by
    let c : Cache (Faulty σ) := { storage, name, capacity := n }
    rw [dataSpace, (run_goesOn _ hn hbefore).1, (c.reopened n (by omega)).name]
  generalize ((mount storage name n).run before).2 = c at hregular hspace
  constructor
  · intro hkeeps
    have hnone : KeepsBounds n (c.under fun _ _ => none) := hkeeps _ fun _ _ hne => absurd rfl hne
    have hcap : (c.under fun _ _ => none).capacity = n := hregular.capacity
    exact (accounted_under _).1 (accounted_of_keepsBounds hcap hn (fun _ _ => rfl) hnone)
  · intro haccounted plan hspares
    have hregular' : Regular n (c.under plan) :=
      ⟨hregular.capacity, hregular.index, hregular.recorded⟩
    refine ((accounted_under plan).2 haccounted).keepsBounds hregular' hn ?_
    change SparesIndex c.dataSpace plan
    rw [hspace]
    exact hspares

end Runs

/-- Room for one is enough for two identities in turn, though no text can ever be read. -/
theorem keepsBounds_unreadable :
    let plan : Nat → AccessRecord → Option StorageError := fun _ record =>
      if record.space = "flags_flags" ∧ record.kind = .get then some (.unavailable "gone") else none
    (∀ space key, (⟨∅, plan, []⟩ : Faulty MemoryStorage).text? space key = none) ∧
      KeepsBounds 1 (((mount (⟨∅, plan, []⟩ : Faulty MemoryStorage) "flags" 1).run
        [.save { key := "a" } "1" 0, .save { key := "b" } "2" 1, .reopen 1]).2.under plan) := by
  intro plan
  have hempty : ∀ space key, (⟨∅, plan, []⟩ : Faulty MemoryStorage).text? space key = none :=
    MemoryStorage.get?_empty
  have hspares : SparesIndex "flags_flags" plan := by
    intro i record hne
    obtain ⟨hspace, hkind⟩ := (ite_ne_right_iff.1 hne).1
    exact ⟨hspace, by rw [hkind]; decide⟩
  have hcalls : ∀ call ∈ [CacheCall.save { key := "a" } "1" 0, .save { key := "b" } "2" 1,
      .reopen 1], call.HasCapacity 1 := by
    simp [CacheCall.HasCapacity]
  obtain ⟨hregular, haccounted⟩ := regular_mount hempty "flags" Nat.one_pos
  refine ⟨hempty, (keepsBounds_iff hempty "flags" Nat.one_pos hcalls).2 ?_ plan hspares⟩
  exact haccounted.run hregular Nat.one_pos hspares hcalls

/-- With room for one: a text that could not be removed stays beside another one although the next
save meets no failure, and when it is loaded, two identities are remembered. -/
theorem exists_beyond_capacity :
    ∃ plan : Nat → AccessRecord → Option StorageError,
      let c := mount (⟨∅, plan, []⟩ : Faulty MemoryStorage) "flags" 1
      ¬ (∀ calls : List CacheCall, (∀ call ∈ calls, call.HasCapacity 1) →
        (c.run calls).2.cachedIdentities.length ≤ 1) ∧
      ¬ (∀ calls : List CacheCall, (∀ call ∈ calls, call.HasCapacity 1) →
        ∀ identity text (now : Int64),
          (∀ a ∈ ((c.run calls).2.save identity text now.toInt).accessesSince (c.run calls).2,
            a.fault = none) →
          ((c.run calls).2.save identity text now.toInt).occupied.encard ≤ 1) := by
  -- The removal is the fifth access, after a read of the index and three writes.
  refine ⟨fun i _ => if i = 4 then some (.unavailable "gone") else none, fun hlength => ?_,
    fun hcard => ?_⟩
  · have hle := hlength [.save { key := "a" } "1" 0, .save { key := "b" } "2" 1,
      .load { key := "a" } 2] (by simp [CacheCall.HasCapacity])
    revert hle
    decide +kernel
  · have hle := hcard [.save { key := "a" } "1" 0, .save { key := "b" } "2" 1]
      (by simp [CacheCall.HasCapacity]) { key := "b" } "2" 2 (by decide +kernel)
    refine absurd hle (not_le.2 (Set.one_lt_encard_iff.2 ⟨"a", "b", ?_, ?_, by decide⟩))
    · change Cache.stored? _ _ _ ≠ none
      decide +kernel
    · change Cache.stored? _ _ _ ≠ none
      decide +kernel

end Cache

end LiveFlags
