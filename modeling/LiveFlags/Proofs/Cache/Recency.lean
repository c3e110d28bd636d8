import LiveFlags.Proofs.Cache.Reliable
import LiveFlags.Proofs.Json.Record

/-!
# The cache as a list in the order of use

What a cache remembers can be told without a storage: it is a list of texts by cache key, the least
recently used one first. A `Recency` is such a list together with a capacity. To save a text puts it
at the end of the list and drops entries from the front while there are too many; to load one moves
it to the end. The list outlives the cache: a cache that is opened again goes on with it, and while
the cache is turned off the list stays as it is.

A cache over a reliable storage does what the list does. Three things have to stay in step for that,
the index in memory, the index in the storage and the texts of the identities (`Agrees`), and one
of them is decoded only when a cache is opened. Each call keeps them in step and is answered alike
(`Agrees.step`).

Main statement: `agrees_of_run`.
-/

namespace LiveFlags

/-- Texts by cache key, the least recently used one first, of which a cache with the given capacity
is in charge. -/
structure Recency where
  capacity : Int
  entries : List (String × String) := []

/-- A call of a cache, or its replacement by another one that is opened over the same storage. -/
inductive CacheCall where
  | save (identity : Identity) (text : String) (now : Int64)
  | load (identity : Identity) (now : Int64)
  | reopen (capacity : Int)

namespace Recency

def keys (r : Recency) : List String :=
  r.entries.map (·.1)

/-- Adds a text at the recent end, in place of what the key had before. -/
def use (entries : List (String × String)) (key text : String) : List (String × String) :=
  entries.filter (·.1 != key) ++ [(key, text)]

/-- Drops entries from the old end while more than `n` remain. -/
def shrink (n : Nat) : List (String × String) → List (String × String)
  | [] => []
  | e :: entries => if n < entries.length + 1 then shrink n entries else e :: entries

/-- The list after a text was saved. -/
def save (r : Recency) (key text : String) : Recency :=
  if r.capacity = 0 then r
  else if 0 < r.capacity then
    { r with entries := shrink r.capacity.toNat (use r.entries key text) }
  else { r with entries := use r.entries key text }

/-- The text of a key, and the list after it was loaded. -/
def load (r : Recency) (key : String) : Option String × Recency :=
  if r.capacity = 0 then (none, r)
  else
    match r.entries.lookup key with
    | some text => (some text, { r with entries := use r.entries key text })
    | none => (none, r)

/-- The answer to a call, which only a load has, and the list after it. -/
def step (r : Recency) : CacheCall → Option String × Recency
  | .save identity text _ => (none, r.save identity.cacheKey text)
  | .load identity _ => r.load identity.cacheKey
  | .reopen capacity => (none, { r with capacity })

/-- The answers to calls, and the list after them. -/
def run (r : Recency) : List CacheCall → List (Option String) × Recency
  | [] => ([], r)
  | call :: calls =>
    let (answers, last) := (r.step call).2.run calls
    ((r.step call).1 :: answers, last)

end Recency

namespace Cache

variable {σ : Type} [Storage σ]

/-- The answer to a call, which only a load has, and the cache after it. -/
def step (c : Cache σ) : CacheCall → Option String × Cache σ
  | .save identity text now => (none, c.save identity text now.toInt)
  | .load identity now => c.load identity now.toInt
  | .reopen capacity => (none, mount c.storage c.name capacity)

/-- The answers to calls, and the cache after them. -/
def run (c : Cache σ) : List CacheCall → List (Option String) × Cache σ
  | [] => ([], c)
  | call :: calls =>
    let (answers, last) := (c.step call).2.run calls
    ((c.step call).1 :: answers, last)

end Cache

namespace Recency

/-- What has to go is at the front, where the least recently used texts are. -/
theorem shrink_eq (n : Nat) (entries : List (String × String)) :
    shrink n entries = entries.drop (entries.length - n) := by
  induction entries with
  | nil => simp [shrink]
  | cons e entries ih =>
    rw [shrink]
    split
    · next h =>
      rw [ih, List.length_cons, Nat.sub_add_comm (by omega), List.drop_succ_cons]
    · next h =>
      rw [List.length_cons, Nat.sub_eq_zero_of_le (by omega), List.drop_zero]

/-- As many entries go as there are too many. -/
theorem save_eq {r : Recency} (h : r.capacity ≠ 0) (key text : String) {n : Nat}
    (hn : n = if r.capacity < 0 then 0 else (use r.entries key text).length - r.capacity.toNat) :
    r.save key text = { r with entries := (use r.entries key text).drop n } := by
  subst hn
  rw [save, if_neg h]
  split
  · next hpos => rw [shrink_eq, if_neg (by omega)]
  · next hneg => rw [if_pos (by omega), List.drop_zero]

/-- The key that is used goes to the end. -/
theorem keys_use (entries : List (String × String)) (key text : String) :
    (use entries key text).map (·.1) = (entries.map (·.1)).filter (· != key) ++ [key] := by
  rw [use, List.map_append, List.filter_map]
  rfl

theorem distinct_use {entries : List (String × String)} (h : (entries.map (·.1)).Nodup)
    (key text : String) : ((use entries key text).map (·.1)).Nodup := by
  rw [keys_use, List.nodup_append]
  refine ⟨h.filter _, by simp, ?_⟩
  simp

theorem lookup_filter_ne (entries : List (String × String)) (key other : String) :
    (entries.filter (·.1 != key)).lookup other =
      if other = key then none else entries.lookup other := by
  induction entries with
  | nil => simp
  | cons e entries ih =>
    obtain ⟨k, text⟩ := e
    by_cases hk : k = key
    · subst hk
      rw [List.filter_cons_of_neg (by simp), ih]
      split
      · rfl
      · next hother => rw [List.lookup_cons, beq_false_of_ne hother]
    · rw [List.filter_cons_of_pos (by simpa using hk), List.lookup_cons, List.lookup_cons, ih]
      by_cases hother : other = k
      · simp [hother, hk]
      · rw [beq_false_of_ne hother]

/-- The text under the key that is used is the new one; all others are as before. -/
theorem lookup_use (entries : List (String × String)) (key text other : String) :
    (use entries key text).lookup other =
      if other = key then some text else entries.lookup other := by
  rw [use, List.lookup_append, lookup_filter_ne, List.lookup_singleton]
  by_cases h : other = key <;> simp [h]

/-- The texts at the front are gone, and no other. -/
theorem lookup_drop {entries : List (String × String)} (h : (entries.map (·.1)).Nodup) (n : Nat)
    (key : String) :
    (entries.drop n).lookup key =
      if key ∈ (entries.take n).map (·.1) then none else entries.lookup key := by
  rw [← List.take_append_drop n entries, List.map_append, List.nodup_append] at h
  obtain ⟨-, -, hdisjoint⟩ := h
  split
  · next hmem =>
    rw [List.lookup_eq_none_iff]
    intro e he
    simpa using hdisjoint key hmem e.1 (List.mem_map_of_mem he)
  · next hmem =>
    have hnone : (entries.take n).lookup key = none := by
      rw [List.lookup_eq_none_iff]
      intro e he
      simpa using fun heq : key = e.1 => hmem (heq ▸ List.mem_map_of_mem he)
    have hsplit := congrArg (List.lookup key) (List.take_append_drop n entries)
    rwa [List.lookup_append, hnone, Option.none_or] at hsplit

end Recency

/-! ### The stored index -/

namespace CacheEntry

open Json

/-- An entry as the clock makes it: with a time of 64 bits. -/
def IsDated (e : CacheEntry) : Prop :=
  -2 ^ 63 ≤ e.timestamp ∧ e.timestamp < 2 ^ 63

theorem reads_read {e : CacheEntry} (h : e.IsDated) (depth : Nat) :
    Reads (CacheEntry.read (depth + 1)) e.toJson e := by
  have hkey : Reads (record.readMember depth "key" {}) (.str e.key) { key := some e.key } :=
    Record.reads_readMember rfl rfl ((reads_readText _ e.key).map _)
  have htime : Reads (record.readMember depth "timestamp" { key := some e.key }) (.int e.timestamp)
      { key := some e.key, timestamp := some e.timestamp } :=
    Record.reads_readMember rfl rfl ((reads_readSigned h.1 h.2).map _)
  exact (Record.reads (.cons hkey (.cons htime (.nil _))) rfl).map _

/-- **The index reads back.** -/
theorem decodeIndex_encodeIndex {entries : List CacheEntry} (h : ∀ e ∈ entries, e.IsDated) :
    decodeIndex (encodeIndex entries) = .ok entries := by
  refine decode_text (Reads.sequence (fun e _ => ?_) fun e he => reads_read (h e he) 125)
  simp [toJson, isWhole, areWholeMembers]

end CacheEntry

/-! ### The cache and the list -/

namespace Cache

variable {σ : Type} [Storage σ] [ReliableStorage σ]

/-- The cache remembers what the list says: in its index, in the stored index and in the stored
texts. A cache that is turned off has no index of its own. -/
structure Agrees (c : Cache σ) (r : Recency) : Prop where
  capacity : c.capacity = r.capacity
  distinct : r.keys.Nodup
  texts : ∀ key, c.text? c.dataSpace key = r.entries.lookup key
  index : ∃ entries : List CacheEntry,
    entries.map (·.key) = r.keys ∧ (∀ e ∈ entries, e.IsDated) ∧
    (c.text? c.indexSpace indexKey = some (CacheEntry.encodeIndex entries) ∨
      c.text? c.indexSpace indexKey = none ∧ entries = []) ∧
    c.index = if c.isEnabled then entries else []

theorem Agrees.isEnabled_iff {c : Cache σ} {r : Recency} (h : Agrees c r) :
    c.isEnabled = true ↔ r.capacity ≠ 0 := by
  simp [isEnabled, h.capacity]

/-- The entry that is touched goes to the end of the index. -/
theorem keys_touched (index : List CacheEntry) (key : String) (now : Int) :
    (touched index key now).map (·.key) = (index.map (·.key)).filter (· != key) ++ [key] := by
  rw [touched, List.map_append, List.filter_map]
  rfl

theorem isDated_touched {index : List CacheEntry} (h : ∀ e ∈ index, e.IsDated) (key : String)
    (now : Int64) : ∀ e ∈ touched index key now.toInt, e.IsDated := by
  intro e he
  rcases List.mem_append.1 he with he | he
  · exact h e (List.mem_filter.1 he).1
  · cases List.mem_singleton.1 he
    exact ⟨now.le_toInt, now.toInt_lt⟩

/-- To save a text keeps the agreement: what the cache evicts is what the list drops. -/
theorem Agrees.save {c : Cache σ} {r : Recency} (h : Agrees c r) (identity : Identity)
    (text : String) (now : Int64) :
    Agrees (c.save identity text now.toInt) (r.save identity.cacheKey text) := by
  by_cases hcap : r.capacity = 0
  · have hc : c.isEnabled = false := by simp [isEnabled, h.capacity, hcap]
    rw [save_of_disabled hc, Recency.save, if_pos hcap]
    exact h
  have hc := h.isEnabled_iff.2 hcap
  obtain ⟨index, hkeys, hdated, -, hindex⟩ := h.index
  rw [if_pos hc] at hindex
  subst hindex
  -- the index and the list are extended alike, so the same number of entries goes from both
  have hused : (touched c.index identity.cacheKey now.toInt).map (·.key) =
      (Recency.use r.entries identity.cacheKey text).map (·.1) := by
    rw [keys_touched, Recency.keys_use, hkeys, Recency.keys]
  have hlength := congrArg List.length hused
  rw [List.length_map, List.length_map] at hlength
  generalize hindex : touched c.index identity.cacheKey now.toInt = index at hused hlength
  generalize hn : excess { c with index } = n
  have hdropped : r.save identity.cacheKey text =
      { r with entries := (Recency.use r.entries identity.cacheKey text).drop n } :=
    Recency.save_eq hcap _ _ (by rw [← hn, ← hlength, ← h.capacity]; rfl)
  obtain ⟨storage, heq, htext⟩ := save_eq hc identity text now.toInt hindex hn
  rw [heq, hdropped]
  refine ⟨h.capacity, ?_, fun key => ?_, index.drop n, ?_, fun e he => ?_, .inl ?_,
    (if_pos hc).symm⟩
  · rw [Recency.keys, List.map_drop]
    exact (Recency.distinct_use h.distinct _ _).sublist (List.drop_sublist ..)
  · refine (htext c.dataSpace key).trans ?_
    rw [if_neg (fun heq => c.indexSpace_ne_dataSpace heq.1.symm),
      Recency.lookup_drop (Recency.distinct_use h.distinct _ _), Recency.lookup_use, h.texts key,
      List.map_take, List.map_take, hused]
    simp only [true_and]
  · rw [List.map_drop, hused, Recency.keys, List.map_drop]
  · have hmem := hindex ▸ List.mem_of_mem_drop he
    exact isDated_touched hdated _ _ e hmem
  · exact (htext c.indexSpace indexKey).trans (if_pos ⟨rfl, rfl⟩)

/-- Loading answers the same, and keeps the agreement. -/
theorem Agrees.load {c : Cache σ} {r : Recency} (h : Agrees c r) (identity : Identity)
    (now : Int64) :
    (c.load identity now.toInt).1 = (r.load identity.cacheKey).1 ∧
      Agrees (c.load identity now.toInt).2 (r.load identity.cacheKey).2 := by
  by_cases hcap : r.capacity = 0
  · have hc : c.isEnabled = false := by simp [isEnabled, h.capacity, hcap]
    rw [load_of_disabled hc, Recency.load, if_pos hcap]
    exact ⟨rfl, h⟩
  have hc := h.isEnabled_iff.2 hcap
  obtain ⟨index, hkeys, hdated, hrecord, hindex⟩ := h.index
  rw [if_pos hc] at hindex
  subst hindex
  rw [Recency.load, if_neg hcap]
  -- A text that is found becomes the most recently used one, on both sides.
  cases hlookup : r.entries.lookup identity.cacheKey with
  | none =>
    rw [load_of_none hc ((h.texts _).trans hlookup)]
    refine ⟨rfl, h.capacity, h.distinct, fun key => ?_, c.index, hkeys, hdated, ?_,
      (if_pos hc).symm⟩
    · rw [text?_visited]
      exact h.texts key
    · rw [text?_visited]
      exact hrecord
  | some text =>
    obtain ⟨storage, heq, htext⟩ := load_of_some hc ((h.texts _).trans hlookup) now.toInt
    rw [heq]
    refine ⟨rfl, h.capacity, Recency.distinct_use h.distinct _ _, fun key => ?_,
      touched c.index identity.cacheKey now.toInt, ?_, isDated_touched hdated _ _, .inl ?_,
      (if_pos hc).symm⟩
    · rw [Recency.lookup_use]
      refine (htext c.dataSpace key).trans ?_
      rw [if_neg (fun heq => c.indexSpace_ne_dataSpace heq.1.symm), h.texts key]
      split
      · next hkey => rw [hkey, hlookup]
      · rfl
    · rw [keys_touched, hkeys, Recency.keys, Recency.keys, Recency.keys_use]
    · exact (htext c.indexSpace indexKey).trans (if_pos ⟨rfl, rfl⟩)

/-- A cache that is opened anew has read its own index, and agrees with the same list under its new
capacity. -/
theorem Agrees.reopen {c : Cache σ} {r : Recency} (h : Agrees c r) (capacity : Int) :
    Agrees (mount c.storage c.name capacity) { r with capacity } := by
  obtain ⟨index, hkeys, hdated, hrecord, -⟩ := h.index
  have hindex : (mount c.storage c.name capacity).index = if capacity ≠ 0 then index else [] := by
    split
    · next hcap =>
      rcases hrecord with hrecord | ⟨hrecord, rfl⟩
      · refine mount_index hcap (Option.map_eq_some_iff.2 ⟨_, hrecord, ?_⟩)
        exact CacheEntry.decodeIndex_encodeIndex hdated
      · exact mount_index_of_none hrecord
    · next hcap =>
      cases Decidable.not_not.1 hcap
      rw [mount_of_disabled]
  obtain ⟨storage, index', failures, heq, htext⟩ := mount_eq c.storage c.name capacity
  rw [heq] at hindex ⊢
  have htext (space key : String) : ReliableStorage.text? storage space key = c.text? space key :=
    congrFun (congrFun htext space) key
  refine ⟨rfl, h.distinct, fun key => (htext _ key).trans (h.texts key), index, hkeys, hdated, ?_,
    ?_⟩
  · change ReliableStorage.text? storage c.indexSpace indexKey = _ ∨
      ReliableStorage.text? storage c.indexSpace indexKey = _ ∧ _
    rw [htext]
    exact hrecord
  · simpa [isEnabled] using hindex

/-- Each call is answered as the list answers it, and keeps the two in step. -/
theorem Agrees.step {c : Cache σ} {r : Recency} (h : Agrees c r) (call : CacheCall) :
    (c.step call).1 = (r.step call).1 ∧ Agrees (c.step call).2 (r.step call).2 := by
  cases call with
  | save identity text now => exact ⟨rfl, h.save identity text now⟩
  | load identity now => exact h.load identity now
  | reopen capacity => exact ⟨rfl, h.reopen capacity⟩

/-- Calls one after another are answered alike. -/
theorem Agrees.run {c : Cache σ} {r : Recency} (h : Agrees c r) (calls : List CacheCall) :
    (c.run calls).1 = (r.run calls).1 ∧ Agrees (c.run calls).2 (r.run calls).2 := by
  induction calls generalizing c r with
  | nil => exact ⟨rfl, h⟩
  | cons call calls ih =>
    obtain ⟨hanswer, hnext⟩ := h.step call
    obtain ⟨hanswers, hlast⟩ := ih hnext
    exact ⟨by simp only [Cache.run, Recency.run, hanswer, hanswers], hlast⟩

/-- Over an empty storage a cache agrees with the empty list. -/
theorem agrees_mount {storage : σ} (h : ∀ space key, ReliableStorage.text? storage space key = none)
    (name : String) (capacity : Int) : Agrees (mount storage name capacity) { capacity } := by
  have hindex : (mount storage name capacity).index = [] := mount_index_of_none (h _ _)
  obtain ⟨storage', index, failures, heq, htext⟩ := mount_eq storage name capacity
  rw [heq] at hindex ⊢
  have htext (space key : String) : ReliableStorage.text? storage' space key = none :=
    (congrFun (congrFun htext space) key).trans (h space key)
  exact ⟨rfl, .nil, fun key => htext _ key, [], rfl, by simp, .inr ⟨htext _ _, rfl⟩,
    by simpa using hindex⟩

/-- The index in memory shows the keys of the list, and none while the cache is turned off. -/
theorem Agrees.cachedIdentities {c : Cache σ} {r : Recency} (h : Agrees c r) :
    c.cachedIdentities = if r.capacity = 0 then [] else r.keys := by
  obtain ⟨index, hkeys, -, -, hindex⟩ := h.index
  rw [Cache.cachedIdentities, hindex]
  by_cases hcap : r.capacity = 0
  · simp [isEnabled, h.capacity, hcap]
  · simp [isEnabled, h.capacity, hcap, hkeys]

/-- **A cache does what the list in the order of use does.** Over a reliable storage that is empty
at first, every call is answered as the list answers it, whatever calls came before and with
whatever capacities the cache was opened again. After each of them the cache shows the keys of the
list in their order, the stored texts are those of the list, and the stored index names its keys. -/
theorem agrees_of_run {storage : σ}
    (hempty : ∀ space key, ReliableStorage.text? storage space key = none) (name : String)
    (capacity : Int) (calls : List CacheCall) :
    ((mount storage name capacity).run calls).1 = (Recency.run { capacity } calls).1 ∧
      Agrees ((mount storage name capacity).run calls).2 (Recency.run { capacity } calls).2 ∧
      ((mount storage name capacity).run calls).2.cachedIdentities =
        if (Recency.run { capacity } calls).2.capacity = 0 then []
        else (Recency.run { capacity } calls).2.keys := by
  obtain ⟨hanswers, hagrees⟩ := (agrees_mount hempty name capacity).run calls
  exact ⟨hanswers, hagrees, hagrees.cachedIdentities⟩

/-- With room for one identity, the second one drives out the first, and is still there after the
cache was turned off and on again. -/
theorem agrees_evicting :
    (∀ space key, ReliableStorage.text? (∅ : MemoryStorage) space key = none) ∧
      ((mount (∅ : MemoryStorage) "flags" 1).run
        [.save { key := "a" } "1" 0, .save { key := "b" } "2" 1, .load { key := "a" } 2,
          .reopen 0, .load { key := "b" } 3, .reopen 2, .load { key := "b" } 4]).1 =
        [none, none, none, none, none, none, some "2"] := by
  refine ⟨MemoryStorage.get?_empty, ?_⟩
  rw [(agrees_of_run MemoryStorage.get?_empty _ _ _).1]
  decide

end Cache

end LiveFlags
