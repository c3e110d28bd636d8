import LiveFlags.Proofs.Cache.Recency
import Mathlib.Logic.Function.Basic

/-!
# Caches that share a storage

Caches of different names may stand side by side over one storage. A `CacheGroup` is such a storage
together with one cache for each name, turned off until it is opened for the first time. What a
cache answers has to be the same as if the others were never used, and no name may be chosen so
that it is not, such as one that ends like a namespace of another cache.

Without the requests to the others the storage holds other texts, and the clock is read at other
times. A cache sees neither. Two states of it are `Indistinct` if they have the same capacity, keys
and reports, if the same texts stand in the namespace of its flags, and if the stored indexes have
the same keys; the times in an index may differ. Every step of a cache keeps two states indistinct,
and so every request is answered alike (`Indistinct.attend`). A request to another cache changes
texts in the two namespaces of that cache only (`keeps_attend`), and no namespace belongs to two
names (`Owns.unique`).

Main statement: `CacheGroup.isolated`.
-/

namespace LiveFlags

namespace CacheEntry

open Json

/-- Entries that were read have times of 64 bits. -/
theorem yields_read (depth : Nat) : Yields (CacheEntry.read (depth + 1)) IsDated := by
  have hrecord : Yields (record.read (depth + 1) {}) fun d : Draft =>
      -2 ^ 63 ≤ d.timestamp.getD 0 ∧ d.timestamp.getD 0 < 2 ^ 63 := by
    refine Record.yields (by decide) fun field hfield draft hdraft => ?_
    simp only [record, List.mem_cons, List.not_mem_nil, or_false] at hfield
    rcases hfield with rfl | rfl
    · exact yields_bind fun _ => yields_pure hdraft
    · exact yields_readSigned.bind fun i hi => yields_pure hi
  exact hrecord.bind fun d hd => yields_pure hd

/-- The times of an index that was read are times of a clock. -/
theorem isDated_of_decodeIndex {text : String} {index : List CacheEntry}
    (h : decodeIndex text = .ok index) : ∀ e ∈ index, e.IsDated :=
  yields_decode (yields_readSequence (yields_read _)) h

/-- The keys in the text of an index. -/
def keysIn (text : String) : Except Json.Fault (List String) :=
  (decodeIndex text).map fun index => index.map (·.key)

/-- The keys in the text of an index are those of its entries. -/
theorem keysIn_encodeIndex {index : List CacheEntry} (h : ∀ e ∈ index, e.IsDated) :
    keysIn (encodeIndex index) = .ok (index.map (·.key)) := by
  rw [keysIn, decodeIndex_encodeIndex h]
  rfl

/-- Two texts in which the same keys are found are faulty in the same way, or hold indexes with
these keys. -/
theorem decodeIndex_cases {text text' : String} (h : keysIn text = keysIn text') :
    (∃ fault, decodeIndex text = .error fault ∧ decodeIndex text' = .error fault) ∨
      ∃ index index', decodeIndex text = .ok index ∧ decodeIndex text' = .ok index' ∧
        index.map (·.key) = index'.map (·.key) := by
  unfold keysIn at h
  cases hleft : decodeIndex text <;> cases hright : decodeIndex text' <;>
    rw [hleft, hright] at h
  · exact .inl ⟨_, rfl, congrArg Except.error (Except.error.inj h).symm⟩
  · cases h
  · cases h
  · exact .inr ⟨_, _, rfl, rfl, Except.ok.inj h⟩

end CacheEntry

namespace Cache

variable {σ : Type}

/-! ### The namespaces of a name -/

/-- The namespace is one of the two of the cache. -/
def Owns (c : Cache σ) (space : String) : Prop :=
  space = c.dataSpace ∨ space = c.indexSpace

/-- Namespaces are the same only if they are made from the same name with the same ending. -/
theorem eq_of_append_eq {a b s t : String} (h : a ++ s = b ++ t)
    (hlength : s.toList.length = t.toList.length) : a = b ∧ s = t := by
  have hlists := congrArg String.toList h
  rw [String.toList_append, String.toList_append] at hlists
  obtain ⟨hnames, hendings⟩ := List.append_inj' hlists hlength
  exact ⟨String.toList_inj.1 hnames, String.toList_inj.1 hendings⟩

/-- **No namespace belongs to two names**, whatever the names end in. -/
theorem Owns.unique {c d : Cache σ} {space : String} (hc : c.Owns space) (hd : d.Owns space) :
    c.name = d.name := by
  have hlength : "_flags".toList.length = "_index".toList.length := by decide
  rcases hc with rfl | rfl <;> rcases hd with hd | hd
  · exact (eq_of_append_eq hd rfl).1
  · exact absurd (eq_of_append_eq hd hlength).2 (by decide)
  · exact absurd (eq_of_append_eq hd hlength.symm).2 (by decide)
  · exact (eq_of_append_eq hd rfl).1

variable [Storage σ] [ReliableStorage σ]

/-! ### Caches that cannot be told apart -/

/-- The keys of the identities in the stored index. -/
def recordedKeys (c : Cache σ) : Option (Except Json.Fault (List String)) :=
  (c.text? c.indexSpace indexKey).map CacheEntry.keysIn

/-- The two caches differ at most in the times of their indexes and in what their storages hold
elsewhere. -/
structure Indistinct (c d : Cache σ) : Prop where
  name : c.name = d.name
  capacity : c.capacity = d.capacity
  keys : c.cachedIdentities = d.cachedIdentities
  failures : c.failures = d.failures
  dated : (∀ e ∈ c.index, e.IsDated) ∧ ∀ e ∈ d.index, e.IsDated
  texts : ∀ key, c.text? c.dataSpace key = d.text? d.dataSpace key
  record : c.recordedKeys = d.recordedKeys

namespace Indistinct

variable {c d : Cache σ}

theorem isEnabled (h : Indistinct c d) : c.isEnabled = d.isEnabled := by
  rw [Cache.isEnabled, Cache.isEnabled, h.capacity]

theorem length (h : Indistinct c d) : c.index.length = d.index.length := by
  simpa [cachedIdentities] using congrArg List.length h.keys

/-! ### Steps -/

theorem report (h : Indistinct c d) (operation : CacheOperation) (error : StorageError) :
    Indistinct (c.report operation error) (d.report operation error) :=
  { h with failures := congrArg (· ++ [CacheFailure.mk operation error]) h.failures }

theorem visited (h : Indistinct c d) (space key space' key' : String) :
    Indistinct (c.visited space key) (d.visited space' key') := by
  refine { h with texts := fun k => ?_, record := ?_ }
  · rw [text?_visited, text?_visited]
    exact h.texts k
  · rw [recordedKeys, recordedKeys, text?_visited, text?_visited]
    exact h.record

/-- A text is put in the same place, or removed from it. -/
theorem written (h : Indistinct c d) (key : String) (text : Option String) :
    Indistinct (c.written c.dataSpace key text) (d.written d.dataSpace key text) := by
  refine { h with texts := fun k => ?_, record := ?_ }
  · rw [text?_written, text?_written]
    exact if_congr (and_congr_left' (iff_of_true rfl rfl)) rfl (h.texts k)
  · rw [recordedKeys, recordedKeys, text?_written, text?_written,
      if_neg fun heq => c.indexSpace_ne_dataSpace heq.1,
      if_neg fun heq => d.indexSpace_ne_dataSpace heq.1]
    exact h.record

theorem writeIndex (h : Indistinct c d) : Indistinct c.writeIndex d.writeIndex := by
  rw [Cache.writeIndex, Cache.writeIndex, putOrReport_eq, putOrReport_eq]
  refine { h with texts := fun k => ?_, record := ?_ }
  · rw [text?_written, text?_written,
      if_neg fun heq => c.indexSpace_ne_dataSpace heq.1.symm,
      if_neg fun heq => d.indexSpace_ne_dataSpace heq.1.symm]
    exact h.texts k
  · rw [recordedKeys, recordedKeys, text?_written, text?_written, if_pos ⟨rfl, rfl⟩,
      if_pos ⟨rfl, rfl⟩, Option.map_some, Option.map_some,
      CacheEntry.keysIn_encodeIndex h.dated.1, CacheEntry.keysIn_encodeIndex h.dated.2]
    exact congrArg (fun keys => some (Except.ok keys)) h.keys

/-- An identity is used, at different times. -/
theorem touched (h : Indistinct c d) (key : String) (now now' : Int64) :
    Indistinct { c with index := touched c.index key now.toInt }
      { d with index := touched d.index key now'.toInt } := by
  refine { h with keys := ?_, dated := ?_ }
  · rw [cachedIdentities, cachedIdentities, keys_touched, keys_touched]
    exact congrArg (fun keys => keys.filter (· != key) ++ [key]) h.keys
  · exact ⟨isDated_touched h.dated.1 _ _, isDated_touched h.dated.2 _ _⟩

/-- The same texts are removed from both. -/
theorem foldl_evict (h : Indistinct c d) (keys : List String) :
    Indistinct (keys.foldl evict c) (keys.foldl evict d) := by
  induction keys generalizing c d with
  | nil => exact h
  | cons key keys ih =>
    rw [List.foldl_cons, List.foldl_cons, evict, evict, putOrReport_eq, putOrReport_eq]
    exact ih (h.written key none)

/-- The same identities have to go. -/
theorem prune (h : Indistinct c d) : Indistinct c.prune d.prune := by
  have hexcess : c.excess = d.excess := by rw [excess, excess, h.capacity, h.length]
  have hevicted : (c.index.take c.excess).map (·.key) = (d.index.take d.excess).map (·.key) := by
    rw [List.map_take, List.map_take, hexcess]
    exact congrArg (List.take d.excess) h.keys
  rw [Cache.prune, Cache.prune, hevicted]
  refine Indistinct.foldl_evict ?_ _
  refine { h with keys := ?_, dated := ?_ }
  · rw [cachedIdentities, cachedIdentities, List.map_drop, List.map_drop, hexcess]
    exact congrArg (List.drop d.excess) h.keys
  · exact ⟨fun e he => h.dated.1 e (List.mem_of_mem_drop he),
      fun e he => h.dated.2 e (List.mem_of_mem_drop he)⟩

/-! ### Operations -/

/-- The same keys are found in the stored index, or the same fault. -/
theorem readIndex (h : Indistinct c d) : Indistinct c.readIndex d.readIndex := by
  have hvisited := h.visited c.indexSpace indexKey d.indexSpace indexKey
  have hrecord : (c.text? c.indexSpace indexKey).map CacheEntry.keysIn =
      (d.text? d.indexSpace indexKey).map CacheEntry.keysIn := h.record
  rw [Cache.readIndex, Cache.readIndex, fetch_eq, fetch_eq]
  cases hc : c.text? c.indexSpace indexKey with
  | none =>
    rw [hc, Option.map_none, eq_comm, Option.map_eq_none_iff] at hrecord
    rw [hrecord]
    exact hvisited
  | some text =>
    rw [hc, Option.map_some, eq_comm, Option.map_eq_some_iff] at hrecord
    obtain ⟨text', hd, hkeys⟩ := hrecord
    rw [hd]
    rcases CacheEntry.decodeIndex_cases hkeys.symm with
      ⟨fault, hfault, hfault'⟩ | ⟨index, index', hindex, hindex', hsame⟩
    · simp only [hfault, hfault']
      exact hvisited.report _ _
    · simp only [hindex, hindex']
      exact { hvisited with
        keys := hsame
        dated := ⟨CacheEntry.isDated_of_decodeIndex hindex,
          CacheEntry.isDated_of_decodeIndex hindex'⟩ }

/-- Caches that are opened anew begin with the same identities. -/
theorem mount (h : Indistinct c d) (capacity : Int) :
    Indistinct (mount c.storage c.name capacity) (mount d.storage d.name capacity) := by
  have hopened : Indistinct ({ storage := c.storage, name := c.name, capacity } : Cache σ)
      { storage := d.storage, name := d.name, capacity } :=
    { h with capacity := rfl, keys := rfl, failures := rfl, dated := by simp }
  unfold Cache.mount
  by_cases hcap : capacity = 0
  · simpa [Cache.isEnabled, hcap] using hopened
  · simpa [Cache.isEnabled, hcap] using hopened.readIndex

/-- A save at different times is told apart by the times alone. -/
theorem save (h : Indistinct c d) (identity : Identity) (text : String) (now now' : Int64) :
    Indistinct (c.save identity text now.toInt) (d.save identity text now'.toInt) := by
  cases hc : c.isEnabled with
  | false =>
    rw [save_of_disabled hc, save_of_disabled (h.isEnabled ▸ hc)]
    exact h
  | true =>
    have hsaved := h.written identity.cacheKey (some text)
    simpa [Cache.save, put_eq, hc, h.isEnabled ▸ hc] using
      (hsaved.touched identity.cacheKey now now').prune.writeIndex

/-- A load answers both alike. -/
theorem load (h : Indistinct c d) (identity : Identity) (now now' : Int64) :
    (c.load identity now.toInt).1 = (d.load identity now'.toInt).1 ∧
      Indistinct (c.load identity now.toInt).2 (d.load identity now'.toInt).2 := by
  have hvisited := h.visited c.dataSpace identity.cacheKey d.dataSpace identity.cacheKey
  cases hc : c.isEnabled with
  | false =>
    rw [load_of_disabled hc, load_of_disabled (h.isEnabled ▸ hc)]
    exact ⟨rfl, h⟩
  | true =>
    have hd : d.isEnabled = true := h.isEnabled ▸ hc
    cases htext : c.text? c.dataSpace identity.cacheKey with
    | none =>
      rw [load_of_none hc htext, load_of_none hd (h.texts _ ▸ htext)]
      exact ⟨rfl, hvisited⟩
    | some text =>
      have htext' : d.text? d.dataSpace identity.cacheKey = some text := h.texts _ ▸ htext
      simp only [Cache.load, hc, hd, fetch_eq, htext, htext', Bool.not_true, Bool.false_eq_true,
        if_false, true_and]
      exact (hvisited.touched identity.cacheKey now now').writeIndex

theorem loadSnapshot (h : Indistinct c d) (identity : Identity) (now now' : Int64) :
    (c.loadSnapshot identity now.toInt).1 = (d.loadSnapshot identity now'.toInt).1 ∧
      Indistinct (c.loadSnapshot identity now.toInt).2 (d.loadSnapshot identity now'.toInt).2 := by
  obtain ⟨htext, hloaded⟩ := h.load identity now now'
  unfold Cache.loadSnapshot
  generalize c.load identity now.toInt = r at htext hloaded ⊢
  generalize d.load identity now'.toInt = r' at htext hloaded ⊢
  obtain ⟨text, c'⟩ := r
  obtain ⟨text', d'⟩ := r'
  cases htext
  cases text with
  | none => exact ⟨rfl, hloaded⟩
  | some text =>
    simp only
    cases Snapshot.decode text with
    | ok snapshot => exact ⟨rfl, hloaded⟩
    | error fault => exact ⟨rfl, hloaded.report _ _⟩

end Indistinct

/-! ### Requests -/

/-- What is asked of a cache. To open it replaces what was there before. -/
inductive Request where
  | mount (capacity : Int)
  | save (identity : Identity) (text : String)
  | load (identity : Identity)
  | saveSnapshot (identity : Identity) (snapshot : Snapshot)
  | loadSnapshot (identity : Identity)

/-- What a cache answers. -/
inductive Answer where
  | done
  | text (text : Option String)
  | snapshot (snapshot : Option Snapshot)

omit [ReliableStorage σ] in
/-- The answer to a request at a time, and the cache after it. -/
def attend (c : Cache σ) (now : Int64) : Request → Answer × Cache σ
  | .mount capacity => (.done, mount c.storage c.name capacity)
  | .save identity text => (.done, c.save identity text now.toInt)
  | .load identity =>
    let (text, c) := c.load identity now.toInt
    (.text text, c)
  | .saveSnapshot identity snapshot => (.done, c.saveSnapshot identity snapshot now.toInt)
  | .loadSnapshot identity =>
    let (snapshot, c) := c.loadSnapshot identity now.toInt
    (.snapshot snapshot, c)

/-- **Indistinct caches answer alike** and stay so, whatever time it is for either. -/
theorem Indistinct.attend {c d : Cache σ} (h : Indistinct c d) (now now' : Int64)
    (request : Request) :
    (c.attend now request).1 = (d.attend now' request).1 ∧
      Indistinct (c.attend now request).2 (d.attend now' request).2 := by
  cases request with
  | mount capacity => exact ⟨rfl, h.mount capacity⟩
  | save identity text => exact ⟨rfl, h.save identity text now now'⟩
  | load identity => exact (h.load identity now now').imp_left (congrArg Answer.text)
  | saveSnapshot identity snapshot => exact ⟨rfl, h.save identity snapshot.encode now now'⟩
  | loadSnapshot identity =>
    exact (h.loadSnapshot identity now now').imp_left (congrArg Answer.snapshot)

/-! ### What a request leaves as it is -/

/-- The cache has kept its name, and all namespaces that are not its own have kept their texts. -/
structure Keeps (c c' : Cache σ) : Prop where
  name : c'.name = c.name
  texts : ∀ space, ¬ c.Owns space → ∀ key, c'.text? space key = c.text? space key

/-- Opening a cache writes nothing. -/
theorem keeps_mount (c : Cache σ) (capacity : Int) : Keeps c (mount c.storage c.name capacity) := by
  obtain ⟨storage, index, failures, heq, htext⟩ := mount_eq c.storage c.name capacity
  rw [heq]
  exact ⟨rfl, fun space _ key => congrFun (congrFun htext space) key⟩

/-- A save writes to the namespaces of its own cache. -/
theorem keeps_save (c : Cache σ) (identity : Identity) (text : String) (now : Int) :
    Keeps c (c.save identity text now) := by
  cases hc : c.isEnabled with
  | false =>
    rw [save_of_disabled hc]
    exact ⟨rfl, fun _ _ _ => rfl⟩
  | true =>
    obtain ⟨storage, heq, htext⟩ := save_eq hc identity text now rfl rfl
    rw [heq]
    refine ⟨rfl, fun space howns key => (htext space key).trans ?_⟩
    rw [if_neg fun h => howns (.inr h.1), if_neg fun h => howns (.inl h.1),
      if_neg fun h => howns (.inl h.1)]

/-- A load writes at most the index of its own cache. -/
theorem keeps_load (c : Cache σ) (identity : Identity) (now : Int) :
    Keeps c (c.load identity now).2 := by
  cases hc : c.isEnabled with
  | false =>
    rw [load_of_disabled hc]
    exact ⟨rfl, fun _ _ _ => rfl⟩
  | true =>
    cases htext : c.text? c.dataSpace identity.cacheKey with
    | none =>
      rw [load_of_none hc htext]
      exact ⟨rfl, fun space _ key => congrFun (congrFun (text?_visited c _ _) space) key⟩
    | some text =>
      obtain ⟨storage, heq, htexts⟩ := load_of_some hc htext now
      rw [heq]
      exact ⟨rfl, fun space howns key =>
        (htexts space key).trans (if_neg fun h => howns (.inr h.1))⟩

theorem keeps_loadSnapshot (c : Cache σ) (identity : Identity) (now : Int) :
    Keeps c (c.loadSnapshot identity now).2 := by
  have hload := keeps_load c identity now
  unfold loadSnapshot
  generalize c.load identity now = r at hload ⊢
  obtain ⟨text, c'⟩ := r
  cases text with
  | none => exact hload
  | some text =>
    simp only
    cases Snapshot.decode text with
    | ok snapshot => exact hload
    | error fault => exact ⟨hload.name, hload.texts⟩

/-- **A cache changes nothing outside of its own namespaces.** -/
theorem keeps_attend (c : Cache σ) (now : Int64) (request : Request) :
    Keeps c (c.attend now request).2 := by
  cases request with
  | mount capacity => exact keeps_mount c capacity
  | save identity text => exact keeps_save c identity text _
  | load identity => exact keeps_load c identity _
  | saveSnapshot identity snapshot => exact keeps_save c identity snapshot.encode _
  | loadSnapshot identity => exact keeps_loadSnapshot c identity _

/-- A cache is not affected by a storage in which its own namespaces hold the same texts. -/
theorem Indistinct.with_storage {c d : Cache σ} (h : Indistinct c d) {storage : σ}
    (htexts : ∀ space, c.Owns space → ∀ key,
      ReliableStorage.text? storage space key = c.text? space key) :
    Indistinct { c with storage } d := by
  refine { h with texts := fun key => ?_, record := ?_ }
  · exact (htexts _ (.inl rfl) key).trans (h.texts key)
  · refine (congrArg (Option.map CacheEntry.keysIn) ?_).trans h.record
    exact htexts _ (.inr rfl) indexKey

end Cache

/-! ### Caches of different names -/

/-- A cache without its name and its storage. -/
structure CacheMember where
  capacity : Int := 0
  index : List CacheEntry := []
  failures : List CacheFailure := []

/-- Caches of different names over one storage. A cache that was not opened yet is turned off. -/
structure CacheGroup (σ : Type) where
  storage : σ
  members : String → CacheMember := fun _ => {}

namespace CacheGroup

open Cache

variable {σ : Type}

/-- The cache with a name. -/
def cache (g : CacheGroup σ) (name : String) : Cache σ where
  storage := g.storage
  name
  capacity := (g.members name).capacity
  index := (g.members name).index
  failures := (g.members name).failures

/-- The group after the cache with a name has changed, and with it the storage. -/
def replace (g : CacheGroup σ) (name : String) (c : Cache σ) : CacheGroup σ where
  storage := c.storage
  members := Function.update g.members name
    { capacity := c.capacity, index := c.index, failures := c.failures }

variable [Storage σ]

/-- The answer of the cache with a name to a request, and the group after it. -/
def attend (g : CacheGroup σ) (now : Int64) (name : String) (request : Request) :
    Answer × CacheGroup σ :=
  let (answer, c) := (g.cache name).attend now request
  (answer, g.replace name c)

/-- The answers to requests that are made of the caches with some names, and the group after them.
The clock shows the times of the requests in turn. -/
def run (g : CacheGroup σ) (clock : Nat → Int64) :
    List (String × Request) → List (String × Answer) × CacheGroup σ
  | [] => ([], g)
  | (name, request) :: requests =>
    let (answer, next) := g.attend (clock 0) name request
    let (answers, last) := next.run (fun n => clock (n + 1)) requests
    ((name, answer) :: answers, last)

omit [Storage σ] in
theorem cache_replace_self (g : CacheGroup σ) {name : String} {c : Cache σ} (h : c.name = name) :
    (g.replace name c).cache name = c := by
  subst h
  simp [cache, replace]

omit [Storage σ] in
/-- A cache notices of another one nothing but the storage. -/
theorem cache_replace_of_ne (g : CacheGroup σ) {name other : String} (h : other ≠ name)
    (c : Cache σ) :
    (g.replace name c).cache other = { g.cache other with storage := c.storage } := by
  simp [cache, replace, h]

/-- What one cache is asked reaches another only through the storage. -/
theorem cache_attend_of_ne (g : CacheGroup σ) {name other : String} (h : other ≠ name) (now : Int64)
    (request : Request) : (g.attend now other request).2.cache name =
      { g.cache name with storage := ((g.cache other).attend now request).2.storage } :=
  cache_replace_of_ne g h.symm _

variable [ReliableStorage σ]

theorem cache_attend_self (g : CacheGroup σ) (now : Int64) (name : String) (request : Request) :
    (g.attend now name request).2.cache name = ((g.cache name).attend now request).2 :=
  cache_replace_self g (keeps_attend (g.cache name) now request).name

/-- A request to the same cache in two groups. -/
theorem indistinct_attend_self {g g' : CacheGroup σ} {name : String}
    (h : Indistinct (g.cache name) (g'.cache name)) (now now' : Int64) (request : Request) :
    (g.attend now name request).1 = (g'.attend now' name request).1 ∧
      Indistinct ((g.attend now name request).2.cache name)
        ((g'.attend now' name request).2.cache name) := by
  rw [cache_attend_self, cache_attend_self]
  exact h.attend now now' request

/-- A request to another cache in the first of two groups. -/
theorem indistinct_attend_of_ne {g g' : CacheGroup σ} {name other : String} (hne : other ≠ name)
    (h : Indistinct (g.cache name) (g'.cache name)) (now : Int64) (request : Request) :
    Indistinct ((g.attend now other request).2.cache name) (g'.cache name) := by
  have hkeeps := keeps_attend (g.cache other) now request
  rw [cache_attend_of_ne g hne]
  exact h.with_storage fun space howns =>
    hkeeps.texts space fun hother => hne (hother.unique howns)

/-- Requests to other caches can be left out. -/
theorem indistinct_run {g g' : CacheGroup σ} {name : String}
    (h : Indistinct (g.cache name) (g'.cache name)) (clock clock' : Nat → Int64)
    (requests : List (String × Request)) :
    (g.run clock requests).1.filter (·.1 = name) =
        (g'.run clock' (requests.filter (·.1 = name))).1 ∧
      Indistinct ((g.run clock requests).2.cache name)
        ((g'.run clock' (requests.filter (·.1 = name))).2.cache name) := by
  induction requests generalizing g g' clock clock' with
  | nil => exact ⟨rfl, h⟩
  | cons r requests ih =>
    obtain ⟨other, request⟩ := r
    by_cases hname : other = name
    · subst hname
      obtain ⟨hanswer, hnext⟩ := indistinct_attend_self h (clock 0) (clock' 0) request
      obtain ⟨hanswers, hlast⟩ := ih hnext (fun n => clock (n + 1)) fun n => clock' (n + 1)
      simp only [run, List.filter_cons, decide_true, if_true]
      exact ⟨by rw [hanswer, hanswers], hlast⟩
    · have hnext := indistinct_attend_of_ne hname h (clock 0) request
      obtain ⟨hanswers, hlast⟩ := ih hnext (fun n => clock (n + 1)) clock'
      simp only [run, List.filter_cons, hname, decide_false, Bool.false_eq_true, if_false]
      exact ⟨hanswers, hlast⟩

/-- **Caches of different names do not notice each other.** Over a reliable storage, whatever it
holds at first, and after any requests to caches of any names, each cache has answered as if only
the requests to itself had been made, and it shows the same keys in the same order and the same
reports; nor does it matter how the clock ran in either case. -/
theorem isolated (storage : σ) (clock clock' : Nat → Int64) (requests : List (String × Request))
    (name : String) :
    let all := run { storage } clock requests
    let own := run { storage } clock' (requests.filter (·.1 = name))
    all.1.filter (·.1 = name) = own.1 ∧
      (all.2.cache name).cachedIdentities = (own.2.cache name).cachedIdentities ∧
      (all.2.cache name).failures = (own.2.cache name).failures := by
  have hstart : Indistinct (cache { storage } name) (cache { storage } name) :=
    ⟨rfl, rfl, rfl, rfl, by simp [cache], fun _ => rfl, rfl⟩
  obtain ⟨hanswers, hlast⟩ := indistinct_run hstart clock clock' requests
  exact ⟨hanswers, hlast.keys, hlast.failures⟩

/-- A cache may even have the name of a namespace of another one. -/
example : (run { storage := (∅ : MemoryStorage) } (fun n => Int64.ofNat n)
    [("x", .mount 1), ("x_flags", .mount 1), ("x", .save { key := "a" } "1"),
      ("x_flags", .save { key := "a" } "2"), ("x_flags", .save { key := "b" } "3"),
      ("x", .load { key := "a" }), ("x_flags", .load { key := "a" })]).1.drop 5 =
    [("x", .text (some "1")), ("x_flags", .text none)] :=
  rfl

end CacheGroup

end LiveFlags
