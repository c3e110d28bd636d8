import LiveFlags.Proofs.Cache.Faulty

/-!
# Failures that stay where they happen

A save or a load makes its accesses one after the other, and any of them may fail. A text that is
not written, or that is not found, ends the call: nothing has changed. All other failures are passed
over: a text that was written stays, whatever becomes of the removals after it and of the index.
Either way the status of the connection hears of each failed access once.

Main statement: `contained`.
-/

namespace LiveFlags.Cache

variable {σ : Type}

/-! ### Reports -/

/-- From `c` to `c'` each access that fails is reported once, then comes one more report if there is
one, and all reports are of the kind that storages have. -/
structure Reports (c : Cache (Faulty σ)) (c' : Cache (Faulty σ)) (more : Option CacheFailure) :
    Prop where
  each : ∃ accesses, c'.storage.log = c.storage.log ++ accesses ∧
    c'.collect.1 = c.collect.1 ++
      (accesses.filterMap c.failure? ++ more.toList).map CacheFailure.toSourceError
  kind : ∀ error ∈ c'.collect.1, error.kind = .store

/-- The failures that a cache reports are those of its accesses, and what it finds unreadable. -/
theorem Makes.reports {c c' c'' : Cache (Faulty σ)} {accesses : List LoggedAccess}
    (h : c.Makes accesses c') {more : Option CacheFailure} (hlog : c''.storage.log = c'.storage.log)
    (hmore : c''.failures = c'.failures ++ more.toList) : Reports c c'' more where
  each := by
    refine ⟨accesses, hlog.trans h.log, ?_⟩
    simp only [collect, hmore, h.failures, List.map_append, List.append_assoc]
  kind := by
    intro error herror
    obtain ⟨failure, -, rfl⟩ := List.mem_map.1 herror
    rfl

variable [Storage σ] [ReliableStorage σ]

/-! ### Calls -/

/-- Whatever fails while a cache saves or loads, the failure stays where it happened. -/
structure Contained (c : Cache (Faulty σ)) (identity : Identity) (now : Int) : Prop where
  /-- A save whose text is refused makes no other access and changes nothing. -/
  refused : ∀ text error, c.isEnabled = true →
    c.storage.fault? ⟨.set, c.dataSpace, identity.cacheKey⟩ = some error →
      (c.save identity text now).storage.log =
        c.storage.log ++ [⟨⟨.set, c.dataSpace, identity.cacheKey⟩, some error⟩] ∧
      c.Alike (c.save identity text now)
  /-- A text that is written stays, and its identity is the most recently used one. -/
  kept : ∀ text, c.isEnabled = true →
    c.storage.fault? ⟨.set, c.dataSpace, identity.cacheKey⟩ = none →
      (c.save identity text now).stored? c.dataSpace identity.cacheKey = some text ∧
      (c.save identity text now).cachedIdentities.getLast? = some identity.cacheKey
  /-- A load that fails or finds nothing changes nothing. -/
  missed : (c.isEnabled = true →
      c.storage.fault? ⟨.get, c.dataSpace, identity.cacheKey⟩ ≠ none ∨
        c.stored? c.dataSpace identity.cacheKey = none) →
    (c.load identity now).1 = none ∧ c.Alike (c.load identity now).2
  /-- A load that neither fails nor misses gives the stored text. -/
  found : c.isEnabled = true →
    c.storage.fault? ⟨.get, c.dataSpace, identity.cacheKey⟩ = none →
      (c.load identity now).1 = c.stored? c.dataSpace identity.cacheKey
  saveReports : ∀ text, Reports c (c.save identity text now) none
  loadReports : Reports c (c.load identity now).2 none
  snapshotReports :
    Reports c (c.loadSnapshot identity now).2 (unreadable? (c.load identity now).1)

/-- **A failure is contained**, for every cache, whatever its index, and every pattern of failing
accesses. -/
theorem contained (c : Cache (Faulty σ)) (identity : Identity) (now : Int) :
    Contained c identity now where
  refused := by
    intro text error hc h
    obtain ⟨hmakes, halike⟩ := save_of_fault hc identity h text now
    exact ⟨hmakes.log, halike⟩
  kept := by
    intro text hc h
    obtain ⟨removals, fault, hsaved⟩ := save_of_none hc identity h text now
    refine ⟨(hsaved.data _).trans (if_pos rfl), ?_⟩
    -- The identity stands at the end of the index, and entries go from the front.
    have hle := excess_touched_le hc identity.cacheKey now
    rw [cachedIdentities, hsaved.index]
    generalize excess _ = n at hle ⊢
    rw [touched, List.drop_append_of_le_length hle, List.map_append, List.getLast?_append]
    rfl
  missed := by
    intro h
    cases hc : c.isEnabled with
    | false =>
      rw [load_of_disabled hc]
      exact ⟨rfl, rfl, rfl⟩
    | true =>
      cases hfault : c.storage.fault? ⟨.get, c.dataSpace, identity.cacheKey⟩ with
      | some error =>
        obtain ⟨c', hload, -, halike⟩ := load_of_fault hc identity hfault now
        rw [hload]
        exact ⟨rfl, halike⟩
      | none =>
        have htext := (h hc).resolve_left fun hne => hne hfault
        obtain ⟨c', hload, -, halike⟩ := load_of_missing hc identity hfault htext now
        rw [hload]
        exact ⟨rfl, halike⟩
  found := by
    intro hc h
    cases htext : c.stored? c.dataSpace identity.cacheKey with
    | none =>
      obtain ⟨c', hload, -⟩ := load_of_missing hc identity h htext now
      rw [hload]
    | some text =>
      obtain ⟨c', fault, hload, -⟩ := load_of_found hc identity h htext now
      rw [hload]
  saveReports := by
    intro text
    obtain ⟨accesses, hmakes⟩ := c.save_makes identity text now
    exact hmakes.reports rfl (List.append_nil _).symm
  loadReports := by
    obtain ⟨accesses, hmakes⟩ := c.load_makes identity now
    exact hmakes.reports rfl (List.append_nil _).symm
  snapshotReports := by
    obtain ⟨accesses, hmakes⟩ := c.load_makes identity now
    rw [loadSnapshot_eq]
    exact hmakes.reports rfl rfl

/-- With a double entry and a stale one in the index, and removals that all fail: the new text is
kept, and each of the three failures is reported. -/
theorem contained_damaged :
    let c : Cache (Faulty MemoryStorage) :=
      { storage := ⟨∅, fun _ record => if record.kind = .remove then some (.unavailable "gone")
          else none, []⟩
        name := "flags"
        capacity := 1
        index := [⟨"a", 0⟩, ⟨"a", 1⟩, ⟨"x", 2⟩] }
    (c.save { key := "b" } "1" 3).stored? c.dataSpace "b" = some "1" ∧
      (c.save { key := "b" } "1" 3).cachedIdentities = ["b"] ∧
      (c.save { key := "b" } "1" 3).collect.1.length = 3 := by
  intro c
  obtain ⟨htext, -⟩ := (contained c { key := "b" } 3).kept "1" rfl rfl
  exact ⟨htext, by decide +kernel, by decide +kernel⟩

end LiveFlags.Cache
