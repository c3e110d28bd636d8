import LiveFlags.Proofs.ItemStore

/-!
# A mirror that follows changes

An observer can keep the visible values on its own, from the changes alone: it stores the new value
of a flag, and drops a flag that is gone. If it agrees with a store to begin with, and hears of each
update exactly, then it agrees with the store for ever. Agreement is about visible values, so a flag
that is missing from the mirror is as good as one with the value `null`.

Main statement: `Mirror.Agrees.follow`.
-/

namespace LiveFlags

open Change

/-- The values that an observer knows, by key. -/
abbrev Mirror := Std.ExtTreeMap String Json

namespace Mirror

/-- What an observer does when it hears of a change. -/
def follow (m : Mirror) (c : Change) : Mirror :=
  if c.deleted then m.erase c.key else m.insert c.key c.newValue

/-- The mirror shows the visible value of every key. -/
def Agrees (m : Mirror) (view : String → Option Item) : Prop :=
  ∀ key, (m[key]?.getD Json.null).same (visible (view key)) = true

/-! ### One key under many changes -/

theorem getElem?_follow (m : Mirror) (c : Change) (key : String) :
    (m.follow c)[key]? =
      if c.key = key then (if c.deleted then none else some c.newValue) else m[key]? := by
  unfold follow
  split
  · simp [Std.ExtTreeMap.getElem?_erase]
  · simp [Std.ExtTreeMap.getElem?_insert]

theorem getElem?_foldl_follow_of_ne {changes : List Change} {key : String}
    (h : ∀ c ∈ changes, c.key ≠ key) (m : Mirror) :
    (changes.foldl follow m)[key]? = m[key]? := by
  induction changes generalizing m with
  | nil => rfl
  | cons c changes ih =>
    rw [List.foldl_cons, ih (fun d hd => h d (List.mem_cons_of_mem c hd)), getElem?_follow,
      if_neg (h c List.mem_cons_self)]

/-- If no key comes twice, the one change of a key decides about it. -/
theorem getElem?_foldl_follow_of_mem {changes : List Change} {c : Change} (hc : c ∈ changes)
    (hdistinct : changes.Pairwise (·.key ≠ ·.key)) (m : Mirror) :
    (changes.foldl follow m)[c.key]? = if c.deleted then none else some c.newValue := by
  induction changes generalizing m with
  | nil => cases hc
  | cons d changes ih =>
    obtain ⟨hd, hdistinct⟩ := List.pairwise_cons.1 hdistinct
    rw [List.foldl_cons]
    rcases List.mem_cons.1 hc with rfl | hc
    · rw [getElem?_foldl_follow_of_ne (fun e he => (hd e he).symm), getElem?_follow, if_pos rfl]
    · exact ih hc hdistinct (m.follow d)

/-- **Exact changes keep a mirror in agreement.** -/
theorem Agrees.follow {m : Mirror} {old new : String → Option Item} {changes : List Change}
    (hm : m.Agrees old) (h : Reports old new changes) :
    Agrees (changes.foldl Mirror.follow m) new := by
  intro key
  have hdistinct : changes.Pairwise (·.key ≠ ·.key) := h.sorted.imp fun hlt => String.ne_of_lt hlt
  by_cases hneeded : Needed (old key) (new key)
  · -- The key has one change, and its value is the visible one, or the flag is gone.
    have hc : transition key (old key) (new key) ∈ changes := (h.mem_iff _).2 ⟨hneeded, rfl⟩
    have hvalue : (changes.foldl Mirror.follow m)[key]? =
        if !isLive (new key) then none else some (visible (new key)) :=
      getElem?_foldl_follow_of_mem hc hdistinct m
    rw [hvalue]
    by_cases hlive : isLive (new key) = true
    · rw [if_neg (by simp [hlive])]
      exact Json.same_refl _
    · rw [if_pos (by simp [hlive]), visible_of_not_isLive hlive]
      rfl
  · -- The key has no change, and the old value is as good as the new one.
    have hne : ∀ c ∈ changes, c.key ≠ key := by
      rintro c hc rfl
      exact hneeded ((h.mem_iff c).1 hc).1
    rw [getElem?_foldl_follow_of_ne hne]
    simp only [Needed, not_or, Bool.not_eq_false] at hneeded
    exact Json.same_trans (hm key) hneeded.1

end Mirror

namespace ItemStore

/-- What an observer hears of a live item that is new to it. -/
def addition (entry : String × Item) : Change where
  key := entry.2.key
  oldValue := .null
  newValue := entry.2.value
  deleted := false

/-- The values of a store are those of a mirror that hears of every live item as of a new one. -/
theorem values_eq_foldl_follow (s : ItemStore) :
    s.values = (s.live.map addition).foldl Mirror.follow ∅ := by
  rw [List.foldl_map]
  rfl

/-- If all items carry their own keys, the values of a store can be looked up. -/
theorem getElem?_values {s : ItemStore} (h : Snapshot.WellKeyed ⟨s.items⟩) (key : String) :
    s.values[key]? = (s.get? key).map Item.value := by
  have hkey : ∀ entry ∈ s.live, entry.2.key = entry.1 := fun entry hentry =>
    h entry.1 entry.2 (get?_eq_some_iff.1 (mem_live.1 hentry)).1
  rw [values_eq_foldl_follow]
  cases hget : s.get? key with
  | none =>
    refine (Mirror.getElem?_foldl_follow_of_ne ?_ ∅).trans Std.ExtTreeMap.getElem?_empty
    intro c hc
    obtain ⟨⟨k, item⟩, hentry, rfl⟩ := List.mem_map.1 hc
    intro heq
    have hk : k = key := (hkey _ hentry).symm.trans heq
    rw [← hk, mem_live.1 hentry] at hget
    cases hget
  | some item =>
    have hentry : (key, item) ∈ s.live := mem_live.2 hget
    have hdistinct : (s.live.map addition).Pairwise (·.key ≠ ·.key) := by
      rw [List.pairwise_map]
      refine s.distinct_live.imp_of_mem fun {a b} ha hb hne => ?_
      simpa only [addition, hkey a ha, hkey b hb] using hne
    have hvalue : ((s.live.map addition).foldl Mirror.follow ∅)[item.key]? = some item.value :=
      Mirror.getElem?_foldl_follow_of_mem (List.mem_map_of_mem hentry) hdistinct ∅
    have hk : item.key = key := hkey _ hentry
    rw [hk] at hvalue
    exact hvalue

/-- A mirror may start with the values of a store. -/
theorem agrees_values {s : ItemStore} (h : Snapshot.WellKeyed ⟨s.items⟩) :
    Mirror.Agrees s.values s.get? := by
  intro key
  rw [getElem?_values h, visible_get?]
  exact Json.same_refl _

end ItemStore

end LiveFlags
