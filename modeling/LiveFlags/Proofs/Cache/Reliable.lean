import LiveFlags.Cache
import LiveFlags.Proofs.Storage

/-!
# A cache over a reliable storage

Over a reliable storage no step of the cache fails, and each one is described by the texts that it
leaves in the storage. The texts of the identities and the index lie in two namespaces, so a step on
one of them does not touch the other.
-/

namespace LiveFlags.Cache

variable {σ : Type}

/-- The index does not stand among the texts. -/
theorem indexSpace_ne_dataSpace (c : Cache σ) : c.indexSpace ≠ c.dataSpace := by
  intro h
  simp [indexSpace, dataSpace] at h

/-- The identity for which a text is saved never has to go for it: the others are enough. -/
theorem excess_touched_le {c : Cache σ} (hc : c.isEnabled = true) (key : String) (now : Int) :
    excess { c with index := touched c.index key now } ≤
      (c.index.filter (·.key != key)).length := by
  have hcap : c.capacity ≠ 0 := by simpa [isEnabled] using hc
  simp only [excess, touched, List.length_append, List.length_singleton]
  split <;> omega

/-- The identity for which a text is saved is not among those that have to go for it. -/
theorem not_mem_evicted {c : Cache σ} (hc : c.isEnabled = true) (key : String) (now : Int) :
    key ∉ ((touched c.index key now).take
      (excess { c with index := touched c.index key now })).map (·.key) := by
  have hle := excess_touched_le hc key now
  rw [touched, List.take_append_of_le_length (by simpa [touched] using hle), List.mem_map]
  rintro ⟨e, he, rfl⟩
  simpa using (List.mem_filter.1 (List.mem_of_mem_take he)).2

variable [Storage σ]

/-! ### A cache that is turned off -/

/-- A cache of capacity zero does not look for an index. -/
theorem mount_of_disabled (storage : σ) (name : String) :
    mount storage name 0 = { storage, name, capacity := 0 } := by
  simp [mount, isEnabled]

/-- Nothing is loaded while the cache is disabled. -/
theorem load_of_disabled {c : Cache σ} (hc : c.isEnabled = false) (identity : Identity)
    (now : Int) : c.load identity now = (none, c) := by
  simp [load, hc]

/-- Nothing is saved while the cache is disabled. -/
theorem save_of_disabled {c : Cache σ} (hc : c.isEnabled = false) (identity : Identity)
    (text : String) (now : Int) : c.save identity text now = c := by
  simp [save, hc]

/-! ### Single accesses -/

variable [ReliableStorage σ]

/-- The text in the storage under a namespace and a key. -/
def text? (c : Cache σ) (space key : String) : Option String :=
  ReliableStorage.text? c.storage space key

/-- The cache after a text was put into its storage. -/
def written (c : Cache σ) (space key : String) (text : Option String) : Cache σ :=
  { c with storage := (Storage.set c.storage space key text).2 }

/-- The cache after a text was read from its storage. -/
def visited (c : Cache σ) (space key : String) : Cache σ :=
  { c with storage := (Storage.get c.storage space key).2 }

/-- A text that was put is under its namespace and key; all others are as before. -/
theorem text?_written (c : Cache σ) (space key : String) (text : Option String)
    (space' key' : String) :
    (c.written space key text).text? space' key' =
      if space' = space ∧ key' = key then text else c.text? space' key' :=
  ReliableStorage.text?_set ..

/-- Reading changes no text. -/
@[simp]
theorem text?_visited (c : Cache σ) (space key : String) :
    (c.visited space key).text? = c.text? := by
  funext space' key'
  exact congrFun (congrFun (ReliableStorage.text?_get c.storage space key) space') key'

/-- Putting a text succeeds on a reliable storage. -/
theorem put_eq (c : Cache σ) (space key : String) (text : Option String) :
    c.put space key text = (.ok (), c.written space key text) :=
  Prod.ext (ReliableStorage.set_eq ..) rfl

/-- So does fetching one, and it answers with the text that is there. -/
theorem fetch_eq (c : Cache σ) (space key : String) :
    c.fetch space key = (.ok (c.text? space key), c.visited space key) :=
  Prod.ext (ReliableStorage.get_eq ..) rfl

/-- There is nothing to report. -/
theorem putOrReport_eq (c : Cache σ) (operation : CacheOperation) (space key : String)
    (text : Option String) : c.putOrReport operation space key text = c.written space key text := by
  rw [putOrReport, put_eq]

/-! ### Steps -/

/-- The texts of forgotten identities are gone, and nothing else is. -/
theorem foldl_evict (c : Cache σ) (keys : List String) :
    ∃ storage, keys.foldl evict c = { c with storage } ∧ ∀ space key,
      ReliableStorage.text? storage space key =
        if space = c.dataSpace ∧ key ∈ keys then none else c.text? space key := by
  induction keys generalizing c with
  | nil => exact ⟨c.storage, rfl, fun space key => by simp [text?]⟩
  | cons k keys ih =>
    obtain ⟨storage, heq, htext⟩ := ih (c.written c.dataSpace k none)
    rw [List.foldl_cons, evict, putOrReport_eq]
    refine ⟨storage, heq, fun space key => ?_⟩
    rw [htext, text?_written]
    change (if space = c.dataSpace ∧ key ∈ keys then none else
      if space = c.dataSpace ∧ key = k then none else c.text? space key) = _
    by_cases hspace : space = c.dataSpace
    · by_cases hkey : key = k <;> simp [hspace, hkey]
    · simp [hspace]

/-- The index is written to its place. -/
theorem writeIndex_eq (c : Cache σ) :
    ∃ storage, c.writeIndex = { c with storage } ∧ ∀ space key,
      ReliableStorage.text? storage space key =
        if space = c.indexSpace ∧ key = indexKey then some (CacheEntry.encodeIndex c.index)
        else c.text? space key :=
  ⟨_, putOrReport_eq .., fun _ _ => text?_written ..⟩

/-! ### Operations -/

/-- To open a cache changes no text. -/
theorem mount_eq (storage : σ) (name : String) (capacity : Int) :
    ∃ storage' index failures,
      mount storage name capacity = { storage := storage', name, capacity, index, failures } ∧
        ReliableStorage.text? storage' = ReliableStorage.text? storage := by
  unfold mount
  extract_lets c
  split
  · have hvisited : (c.visited c.indexSpace indexKey).text? = c.text? := text?_visited ..
    unfold readIndex
    rw [fetch_eq]
    cases c.text? c.indexSpace indexKey with
    | none => exact ⟨_, _, _, rfl, hvisited⟩
    | some text =>
      simp only
      split <;> exact ⟨_, _, _, rfl, hvisited⟩
  · exact ⟨_, _, _, rfl, rfl⟩

/-- The index of a cache that is opened is the stored one, if that can be read. -/
theorem mount_index {storage : σ} {name : String} {capacity : Int} (h : capacity ≠ 0)
    {index : List CacheEntry}
    (hindex : (ReliableStorage.text? storage (name ++ "_index") indexKey).map
      CacheEntry.decodeIndex = some (.ok index)) :
    (mount storage name capacity).index = index := by
  obtain ⟨text, htext, hdecode⟩ := Option.map_eq_some_iff.1 hindex
  have htext' : ({ storage, name, capacity } : Cache σ).text?
      ({ storage, name, capacity } : Cache σ).indexSpace indexKey = some text := htext
  simp [mount, isEnabled, h, readIndex, fetch_eq, htext', hdecode]

/-- Where no index is stored, a cache starts without one. -/
theorem mount_index_of_none {storage : σ} {name : String} {capacity : Int}
    (htext : ReliableStorage.text? storage (name ++ "_index") indexKey = none) :
    (mount storage name capacity).index = [] := by
  have htext' : ({ storage, name, capacity } : Cache σ).text?
      ({ storage, name, capacity } : Cache σ).indexSpace indexKey = none := htext
  unfold mount
  extract_lets c
  split
  · rw [readIndex, fetch_eq, htext']
    rfl
  · rfl

/-- If no text is stored, nothing is found and the index is left as it is. -/
theorem load_of_none {c : Cache σ} {identity : Identity} (hc : c.isEnabled = true)
    (h : c.text? c.dataSpace identity.cacheKey = none) (now : Int) :
    c.load identity now = (none, c.visited c.dataSpace identity.cacheKey) := by
  simp [load, hc, fetch_eq, h]

/-- A text that is found is returned, and its identity becomes the most recently used one. -/
theorem load_of_some {c : Cache σ} {identity : Identity} {text : String} (hc : c.isEnabled = true)
    (h : c.text? c.dataSpace identity.cacheKey = some text) (now : Int) :
    ∃ storage, c.load identity now =
        (some text, { c with storage, index := touched c.index identity.cacheKey now }) ∧
      ∀ space key, ReliableStorage.text? storage space key =
        if space = c.indexSpace ∧ key = indexKey then
          some (CacheEntry.encodeIndex (touched c.index identity.cacheKey now))
        else c.text? space key := by
  obtain ⟨storage, heq, htext⟩ := writeIndex_eq
    { c.visited c.dataSpace identity.cacheKey with index := touched c.index identity.cacheKey now }
  refine ⟨storage, ?_, fun space key => ?_⟩
  · simp only [load, hc, fetch_eq, h]
    exact congrArg (some text, ·) heq
  · rw [htext, ← text?_visited c c.dataSpace identity.cacheKey]
    rfl

/-- A text that is saved is kept, its identity becomes the most recently used one, and as many
others as are too many are forgotten. -/
theorem save_eq {c : Cache σ} (hc : c.isEnabled = true) (identity : Identity) (text : String)
    (now : Int) {index : List CacheEntry} {n : Nat}
    (hindex : touched c.index identity.cacheKey now = index)
    (hn : excess { c with index } = n) :
    ∃ storage, c.save identity text now = { c with storage, index := index.drop n } ∧
      ∀ space key, ReliableStorage.text? storage space key =
        if space = c.indexSpace ∧ key = indexKey then
          some (CacheEntry.encodeIndex (index.drop n))
        else if space = c.dataSpace ∧ key ∈ (index.take n).map (·.key) then none
        else if space = c.dataSpace ∧ key = identity.cacheKey then some text
        else c.text? space key := by
  subst hindex hn
  let index := touched c.index identity.cacheKey now
  let c₁ := { c.written c.dataSpace identity.cacheKey (some text) with index }
  obtain ⟨storage₁, hevict, htext₁⟩ := foldl_evict { c₁ with index := index.drop c₁.excess }
    ((index.take c₁.excess).map (·.key))
  obtain ⟨storage, hwrite, htext⟩ := writeIndex_eq
    { c₁ with storage := storage₁, index := index.drop c₁.excess }
  refine ⟨storage, ?_, fun space key => ?_⟩
  · simp only [save, hc, put_eq, Bool.not_true, Bool.false_eq_true, if_false]
    change (prune c₁).writeIndex = _
    have hprune : prune c₁ = { c₁ with storage := storage₁, index := index.drop c₁.excess } :=
      hevict
    rw [hprune, hwrite]
    rfl
  · have hput := text?_written c c.dataSpace identity.cacheKey (some text) space key
    rw [htext]
    change (if space = c.indexSpace ∧ key = indexKey then _ else
      ReliableStorage.text? storage₁ space key) = _
    rw [htext₁]
    change (if _ then _ else if _ then _ else
      (c.written c.dataSpace identity.cacheKey (some text)).text? space key) = _
    rw [hput]
    rfl

/-- A text that is saved can be read afterwards. -/
theorem text?_save {c : Cache σ} (hc : c.isEnabled = true) (identity : Identity) (text : String)
    (now : Int) :
    ∃ storage index, c.save identity text now = { c with storage, index } ∧
      ReliableStorage.text? storage c.dataSpace identity.cacheKey = some text := by
  obtain ⟨storage, heq, htext⟩ := save_eq hc identity text now rfl rfl
  refine ⟨storage, _, heq, (htext _ _).trans ?_⟩
  rw [if_neg fun h => c.indexSpace_ne_dataSpace h.1.symm,
    if_neg fun h => not_mem_evicted hc _ _ h.2, if_pos ⟨rfl, rfl⟩]

/-! ### Snapshots -/

/-- Loading may touch the index and what is stored of it, and nothing else. -/
theorem load_frame (c : Cache σ) (identity : Identity) (now : Int) :
    ∃ storage index, (c.load identity now).2 = { c with storage, index } ∧
      ∀ key, ReliableStorage.text? storage c.dataSpace key = c.text? c.dataSpace key := by
  cases hc : c.isEnabled with
  | false =>
    rw [load_of_disabled hc]
    exact ⟨c.storage, c.index, rfl, fun _ => rfl⟩
  | true =>
    cases h : c.text? c.dataSpace identity.cacheKey with
    | none =>
      rw [load_of_none hc h]
      exact ⟨_, c.index, rfl, fun key => congrFun (congrFun (text?_visited c _ _) _) key⟩
    | some text =>
      obtain ⟨storage, heq, htext⟩ := load_of_some hc h now
      rw [heq]
      refine ⟨storage, _, rfl, fun key => (htext _ key).trans ?_⟩
      rw [if_neg fun h => c.indexSpace_ne_dataSpace h.1.symm]

/-- To load a snapshot changes none. -/
theorem loadSnapshot_frame (c : Cache σ) (identity : Identity) (now : Int) :
    ∃ storage index failures,
      (c.loadSnapshot identity now).2 = { c with storage, index, failures } ∧
        ∀ key, ReliableStorage.text? storage c.dataSpace key = c.text? c.dataSpace key := by
  obtain ⟨storage, index, hload, htext⟩ := c.load_frame identity now
  unfold loadSnapshot
  split
  · next c' heq =>
    rw [heq] at hload
    exact ⟨storage, index, c.failures, hload, htext⟩
  · next text c' heq =>
    rw [heq] at hload
    cases hload
    split
    · exact ⟨storage, index, c.failures, rfl, htext⟩
    · exact ⟨storage, index, _, rfl, htext⟩

/-- What is loaded is the snapshot that can be read from the stored text. -/
theorem loadSnapshot_fst {c : Cache σ} {identity : Identity} {text : String}
    (hc : c.isEnabled = true) (h : c.text? c.dataSpace identity.cacheKey = some text) (now : Int) :
    (c.loadSnapshot identity now).1 = (Snapshot.decode text).toOption.map Snapshot.rekeyed := by
  obtain ⟨storage, hload, -⟩ := load_of_some hc h now
  simp only [loadSnapshot, hload]
  cases Snapshot.decode text <;> rfl

end LiveFlags.Cache
