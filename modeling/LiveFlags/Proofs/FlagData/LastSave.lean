import LiveFlags.Proofs.FlagData.Overlap

/-!
# What overlapping updates leave in the cache

Each call saves what it has read after its own update, and the texts come into the cache in the
order of the saves. But the calls may have read in another order. So the cache is left with what the
last call to save has read (`LastSaved`), and that may be older than what is there in the end: an
update that was applied in between is lost for the next start, although its own call has saved it.

Besides, a text may be one that cannot be read again. So once all calls have returned, the cache
gives back the items exactly if what the last one had read reads back as what is there now (`Kept`).
For items off a wire that comes down to two conditions (`loadSnapshot_iff_of_received`).

Main statement: `loadSnapshot_iff_kept`.
-/

namespace LiveFlags

/-- What the cache gives back after a snapshot was saved. -/
def Snapshot.loaded? (s : Snapshot) : Option Snapshot :=
  (decode s.encode).toOption.map rekeyed

/-- Items off a wire are read back as they are, or not at all. -/
theorem ItemStore.Wired.loaded?_eq_some_iff {s : ItemStore} (hs : s.Wired) {back : Snapshot} :
    s.snapshot.loaded? = some back ↔ s.snapshot = back ∧ s.IsShallow := by
  have hsnapshot : s.snapshot = ⟨s.items⟩ := hs.snapshot_eq
  have hrekeyed : Snapshot.rekeyed ⟨s.items⟩ = ⟨s.items⟩ := hs.wellKeyed.rekeyed_eq
  rw [hsnapshot, Snapshot.loaded?]
  constructor
  · intro hback
    cases hread : Snapshot.decode (Snapshot.encode ⟨s.items⟩) with
    | error fault =>
      rw [hread] at hback
      cases hback
    | ok read =>
      have heq : read = ⟨s.items⟩ := Snapshot.eq_of_decode_encode hs.readable hs.whole hread
      have hreadable := Snapshot.readable_of_decode hread
      subst heq
      rw [hread] at hback
      refine ⟨hrekeyed.symm.trans (Option.some.inj hback), fun key item hitem => ?_⟩
      exact (hreadable key item hitem).depth_le
  · rintro ⟨rfl, hshallow⟩
    have hreadable : Snapshot.Readable 125 ⟨s.items⟩ := hs.readable.of_depth_le hshallow
    rw [Snapshot.decode_encode hreadable hs.whole]
    exact congrArg some hrekeyed

/-- A call saves what it has read. -/
def UpdateEvent.isSave : UpdateEvent → Bool
  | .act _ (.save _) => true
  | _ => false

/-- The call has something to save. -/
def UpdateStage.owes : UpdateStage → Bool
  | .applied _ | .seen _ _ => true
  | .called | .telling _ => false

namespace Overlap

variable {σ : Type} [Storage σ]

/-- In this run a call has read the items in `seen`, and has saved them as the last one. -/
def LastSaved (s₀ : Overlap σ) (es : List UpdateEvent) (seen : Overlap σ) : Prop :=
  ∃ earlier between later n now,
    es = earlier ++ .act n .read :: (between ++ .act n (.save now) :: later) ∧
      s₀.run earlier = some seen ∧ ∀ e ∈ later, e.isSave = false

/-- When the cache gives back the items at the end of a run. -/
inductive Kept (s₀ : Overlap σ) (es : List UpdateEvent) (s : Overlap σ) : Prop
  /-- What was saved last reads back as what is there now. -/
  | saved {seen : Overlap σ} (last : LastSaved s₀ es seen)
    (back : seen.data.snapshot.loaded? = some s.data.snapshot)
  /-- Nothing was saved, and the cache gave back the items at the beginning. -/
  | unsaved (idle : ∀ e ∈ es, e.isSave = false)
    (back : ∀ now, (s₀.data.cache.loadSnapshot s₀.data.identity now).1 = some s₀.data.snapshot)

variable {s s' : Overlap σ} {e : UpdateEvent}

/-! ### What happens to a call -/

/-- A call stays where it is unless it acts. -/
theorem calls_of_step (h : s.step e = some s') {n : Nat} {u : Update} (hu : s.calls[n]? = some u) :
    s'.calls[n]? = some u ∨ ∃ action stage, e = .act n action ∧
      s.data.act u.step u.stage action = some (s'.data, stage) ∧
      s'.calls[n]? = some { u with stage } := by
  obtain ⟨hn, -⟩ := List.getElem?_eq_some_iff.1 hu
  cases e with
  | call step =>
    obtain ⟨-, rfl⟩ := step_call h
    exact .inl ((List.getElem?_append_left hn).trans hu)
  | act m action =>
    obtain ⟨v, data, stage, hv, hact, rfl⟩ := step_act h
    by_cases hm : m = n
    · subst hm
      cases hv.symm.trans hu
      exact .inr ⟨action, stage, rfl, hact, List.getElem?_set_self hn⟩
    · exact .inl ((List.getElem?_set_ne hm).trans hu)

/-- A call that has read was there before, or has just read what is there. -/
theorem seen_of_step (h : s.step e = some s') {n : Nat} {step : DataStep} {changes : List Change}
    {snapshot : Snapshot} (hu : s'.calls[n]? = some ⟨step, .seen changes snapshot⟩) :
    s.calls[n]? = some ⟨step, .seen changes snapshot⟩ ∨
      (e = .act n .read ∧ snapshot = s.data.snapshot) := by
  cases e with
  | call new =>
    obtain ⟨-, rfl⟩ := step_call h
    by_cases hn : n < s.calls.length
    · exact .inl ((List.getElem?_append_left hn).symm.trans hu)
    · rw [List.getElem?_append_right (Nat.le_of_not_lt hn)] at hu
      cases List.mem_singleton.1 (List.mem_of_getElem? hu)
  | act m action =>
    obtain ⟨v, data, stage, hv, hact, rfl⟩ := step_act h
    obtain ⟨hm, -⟩ := List.getElem?_eq_some_iff.1 hv
    -- Another call does not touch what this one has read.
    by_cases heq : m = n
    · subst heq
      cases (List.getElem?_set_self hm).symm.trans hu
      cases action with
      | apply =>
        obtain ⟨-, ⟨changes, -, hstage⟩ | ⟨-, hstage⟩⟩ := FlagData.act_apply hact <;> cases hstage
      | read =>
        obtain ⟨changes, -, -, hstage⟩ := FlagData.act_read hact
        cases hstage
        exact .inr ⟨rfl, rfl⟩
      | save now =>
        obtain ⟨changes, snapshot, -, -, hstage⟩ := FlagData.act_save hact
        cases hstage
      | tell =>
        obtain ⟨change, changes, -, -, hstage⟩ := FlagData.act_tell hact
        cases hstage
    · exact .inl ((List.getElem?_set_ne heq).symm.trans hu)

/-- What a call has read stays the same until it is saved. -/
theorem seen_of_run {es : List UpdateEvent} (h : s.run es = some s') {n : Nat}
    {step step' : DataStep} {changes changes' : List Change} {snapshot snapshot' : Snapshot}
    (hu : s.calls[n]? = some ⟨step, .seen changes snapshot⟩)
    (hu' : s'.calls[n]? = some ⟨step', .seen changes' snapshot'⟩) : snapshot' = snapshot := by
  -- After its save a call only tells what it has to tell, so it never reads a second time.
  have hstays : s'.calls[n]? = some ⟨step, .seen changes snapshot⟩ ∨
      ∃ left, s'.calls[n]? = some ⟨step, .telling left⟩ := by
    refine run_induction (motive := fun _ s => s.calls[n]? = some ⟨step, .seen changes snapshot⟩ ∨
      ∃ left, s.calls[n]? = some ⟨step, .telling left⟩) (.inl hu) ?_ h
    rintro es e s₁ s₂ - (hseen | ⟨left, htelling⟩) hstep
    · rcases calls_of_step hstep hseen with hkept | ⟨action, stage, -, hact, hnew⟩
      · exact .inl hkept
      · cases action with
        | save now =>
          obtain ⟨told, _, -, -, rfl⟩ := FlagData.act_save hact
          exact .inr ⟨told, hnew⟩
        | apply | read | tell => cases hact
    · rcases calls_of_step hstep htelling with hkept | ⟨action, stage, -, hact, hnew⟩
      · exact .inr ⟨left, hkept⟩
      · cases action with
        | tell =>
          obtain ⟨change, rest, -, -, rfl⟩ := FlagData.act_tell hact
          exact .inr ⟨rest, hnew⟩
        | apply | read | save => cases hact
  rcases hstays with hseen | ⟨left, htelling⟩
  · cases hseen.symm.trans hu'
    rfl
  · cases htelling.symm.trans hu'

/-- A call that has read has done so in the course of the run, if it was not called before. -/
theorem exists_read_of_run {d : FlagData σ} {es : List UpdateEvent}
    (h : (around d).run es = some s) {n : Nat} {step : DataStep} {changes : List Change}
    {snapshot : Snapshot} (hu : s.calls[n]? = some ⟨step, .seen changes snapshot⟩) :
    ∃ earlier between seen, es = earlier ++ .act n .read :: between ∧
      (around d).run earlier = some seen ∧ snapshot = seen.data.snapshot := by
  refine run_induction (motive := fun es s => s.calls[n]? = some ⟨step, .seen changes snapshot⟩ →
    ∃ earlier between seen, es = earlier ++ .act n .read :: between ∧
      (around d).run earlier = some seen ∧ snapshot = seen.data.snapshot)
    (by simp [around]) ?_ h hu
  intro es e s₁ s₂ hrun hm hstep hu
  rcases seen_of_step hstep hu with hbefore | ⟨rfl, rfl⟩
  · obtain ⟨earlier, between, seen, rfl, hseen, heq⟩ := hm hbefore
    exact ⟨earlier, between ++ [e], seen, by simp, hseen, heq⟩
  · exact ⟨es, [], s₁, rfl, hrun, rfl⟩

/-- A call keeps its update, which is for the current identity. -/
theorem mem_calls_of_step (h : s.step e = some s') {u : Update} (hu : u ∈ s'.calls) :
    (∃ v ∈ s.calls, v.step = u.step) ∨ (e = .call u.step ∧ s.data.isAddressed u.step = true) := by
  cases e with
  | call step =>
    obtain ⟨hfor, rfl⟩ := step_call h
    rcases List.mem_append.1 hu with hu | hu
    · exact .inl ⟨u, hu, rfl⟩
    · cases List.mem_singleton.1 hu
      exact .inr ⟨rfl, hfor⟩
  | act n action =>
    obtain ⟨v, data, stage, hv, -, rfl⟩ := step_act h
    rcases List.mem_or_eq_of_mem_set hu with hu | rfl
    · exact .inl ⟨u, hu, rfl⟩
    · exact .inl ⟨v, List.mem_of_getElem? hv, rfl⟩

/-! ### What happens to the items and the cache -/

/-- Only a save changes the cache. -/
theorem cache_of_step (h : s.step e = some s') (he : e.isSave = false) :
    s'.data.cache = s.data.cache := by
  rcases data_of_step h with ⟨notifier, hdata⟩ | ⟨n, u, changes, -, -, hdata, -⟩ |
    ⟨n, now, u, snapshot, rfl, -, -⟩
  · rw [hdata]
  · rw [hdata]
  · cases he

/-- Nothing but saves reaches the cache. -/
theorem cache_of_run {es : List UpdateEvent} (h : s.run es = some s')
    (hes : ∀ e ∈ es, e.isSave = false) : s'.data.cache = s.data.cache := by
  refine run_induction (motive := fun es s' => (∀ e ∈ es, e.isSave = false) →
    s'.data.cache = s.data.cache) (fun _ => rfl) ?_ h hes
  intro es e s₁ s₂ _ hm hstep hes
  have hkept : s₂.data.cache = s₁.data.cache := cache_of_step hstep (hes e (by simp))
  exact hkept.trans (hm fun e he => hes e (List.mem_append_left _ he))

/-- Only a call that applies its update changes the items. -/
theorem store_of_step (h : s.step e = some s') :
    s'.data.store = s.data.store ∨ ∃ n u changes, e = .act n .apply ∧ u ∈ s.calls ∧
      s'.data.store = s.data.store.after u.step ∧
      { u with stage := .applied changes } ∈ s'.calls := by
  rcases data_of_step h with ⟨notifier, hdata⟩ | ⟨n, u, changes, he, hu, hdata, happlied⟩ |
    ⟨n, now, u, snapshot, -, -, hdata⟩
  · exact .inl (by rw [hdata])
  · exact .inr ⟨n, u, changes, he, hu, by rw [hdata], happlied⟩
  · exact .inl (by rw [hdata, FlagData.persist])

/-- Nothing but updates that are applied reaches the items. -/
theorem snapshot_of_run {es : List UpdateEvent} (h : s.run es = some s')
    (hes : ∀ n, .act n .apply ∉ es) : s'.data.snapshot = s.data.snapshot := by
  refine run_induction (motive := fun es s' => (∀ n, .act n .apply ∉ es) →
    s'.data.snapshot = s.data.snapshot) (fun _ => rfl) ?_ h hes
  intro es e s₁ s₂ _ hm hstep hes
  rcases store_of_step hstep with hkept | ⟨n, u, changes, rfl, -⟩
  · exact (congrArg ItemStore.snapshot hkept).trans
      (hm fun n hmem => hes n (List.mem_append_left _ hmem))
  · exact absurd (List.mem_append_right _ List.mem_cons_self) (hes n)

/-- What is owed stays so until it is saved. -/
theorem owes_of_step (h : s.step e = some s') (he : e.isSave = false)
    (howes : ∃ u ∈ s.calls, u.stage.owes = true) : ∃ u ∈ s'.calls, u.stage.owes = true := by
  obtain ⟨u, hu, howes⟩ := howes
  obtain ⟨n, hn⟩ := List.mem_iff_getElem?.1 hu
  rcases calls_of_step h hn with hkept | ⟨action, stage, rfl, hact, hnew⟩
  · exact ⟨u, List.mem_of_getElem? hkept, howes⟩
  · refine ⟨_, List.mem_of_getElem? hnew, ?_⟩
    cases action with
    | apply =>
      obtain ⟨hcalled, -⟩ := FlagData.act_apply hact
      rw [hcalled] at howes
      cases howes
    | read =>
      obtain ⟨changes, -, -, rfl⟩ := FlagData.act_read hact
      rfl
    | save now => cases he
    | tell =>
      obtain ⟨change, changes, htelling, -, -⟩ := FlagData.act_tell hact
      rw [htelling] at howes
      cases howes

/-- If nothing was saved and all calls have returned, none of them has changed the items. -/
theorem store_of_run {es : List UpdateEvent} (h : s.run es = some s')
    (hes : ∀ e ∈ es, e.isSave = false) (hend : s'.AtRest) :
    s'.data.store = s.data.store := by
  -- A change of the items is owed until it is saved, and a call that has returned owes nothing.
  have hstore : s'.data.store = s.data.store ∨ ∃ u ∈ s'.calls, u.stage.owes = true := by
    refine run_induction (motive := fun es s' => (∀ e ∈ es, e.isSave = false) →
      s'.data.store = s.data.store ∨ ∃ u ∈ s'.calls, u.stage.owes = true)
      (fun _ => .inl rfl) ?_ h hes
    intro es e s₁ s₂ _ hm hstep hes
    rcases hm fun e he => hes e (List.mem_append_left _ he) with hsame | howes
    · rcases store_of_step hstep with hkept | ⟨n, u, changes, -, -, -, happlied⟩
      · exact .inl (hkept.trans hsame)
      · exact .inr ⟨_, happlied, rfl⟩
    · exact .inr (owes_of_step hstep (hes e (by simp)) howes)
  refine hstore.resolve_right fun ⟨u, hu, howes⟩ => ?_
  rw [hend u hu] at howes
  cases howes

/-! ### The last save -/

/-- The call that saved last is still the last one after any other event. -/
theorem LastSaved.concat {s₀ seen : Overlap σ} {es : List UpdateEvent} (h : LastSaved s₀ es seen)
    (he : e.isSave = false) : LastSaved s₀ (es ++ [e]) seen := by
  obtain ⟨earlier, between, later, n, now, rfl, hseen, hlater⟩ := h
  refine ⟨earlier, between, later ++ [e], n, now, by simp, hseen, fun e' he' => ?_⟩
  rcases List.mem_append.1 he' with he' | he'
  · exact hlater e' he'
  · cases List.mem_singleton.1 he'
    exact he

/-- If anything was saved, there is a last save. -/
theorem exists_lastSaved {d : FlagData σ} {es : List UpdateEvent} (h : (around d).run es = some s) :
    (∀ e ∈ es, e.isSave = false) ∨ ∃ seen, LastSaved (around d) es seen := by
  refine run_induction (motive := fun es _ => (∀ e ∈ es, e.isSave = false) ∨
    ∃ seen, LastSaved (around d) es seen) (.inl nofun) ?_ h
  intro es e s₁ s₂ hrun hm hstep
  cases he : e.isSave with
  | true =>
    right
    cases e with
    | call => cases he
    | act n action =>
      cases action with
      | apply | read | tell => cases he
      | save now =>
        -- This save is the last one so far, and its call can only have read in this run.
        obtain ⟨⟨step, stage⟩, data, _, hu, hact, -⟩ := step_act hstep
        obtain ⟨changes, snapshot, rfl, -, -⟩ := FlagData.act_save hact
        obtain ⟨earlier, between, seen, rfl, hseen, -⟩ := exists_read_of_run hrun hu
        exact ⟨seen, earlier, between, [], n, now, by simp, hseen, nofun⟩
  | false =>
    rcases hm with hnone | ⟨seen, hlast⟩
    · refine .inl fun e' he' => ?_
      rcases List.mem_append.1 he' with he' | he'
      · exact hnone e' he'
      · cases List.mem_singleton.1 he'
        exact he
    · exact .inr ⟨seen, hlast.concat he⟩

/-! ### What is stored -/

variable [ReliableStorage σ]

/-- Calls for one identity over a cache that is turned on. -/
structure Serves (identity : Identity) (s : Overlap σ) : Prop where
  identity_eq : s.data.identity = identity
  isEnabled : s.data.cache.isEnabled = true
  addressed : ∀ u ∈ s.calls, identity.same u.step.addressee = true

/-- The cache stores the text of a snapshot for the identity. -/
def Stores (s : Overlap σ) (identity : Identity) (snapshot : Snapshot) : Prop :=
  s.data.cache.text? s.data.cache.dataSpace identity.cacheKey = some snapshot.encode

theorem Serves.step {identity : Identity} (hs : Serves identity s) (h : s.step e = some s') :
    Serves identity s' := by
  obtain ⟨rfl, hc, hcalls⟩ := hs
  have hsame : ∀ u ∈ s'.calls, s.data.identity.same u.step.addressee = true := by
    intro u hu
    rcases mem_calls_of_step h hu with ⟨v, hv, heq⟩ | ⟨-, hfor⟩
    · rw [← heq]
      exact hcalls v hv
    · exact FlagData.same_addressee hfor
  rcases data_of_step h with ⟨notifier, hdata⟩ | ⟨n, u, changes, -, -, hdata, -⟩ |
    ⟨n, now, u, snapshot, -, -, hdata⟩
  · exact ⟨by rw [hdata], by rw [hdata]; exact hc, hsame⟩
  · exact ⟨by rw [hdata], by rw [hdata]; exact hc, hsame⟩
  · obtain ⟨storage, index, hsave, -⟩ :=
      Cache.text?_save hc u.step.addressee snapshot.encode now
    refine ⟨by rw [hdata, FlagData.persist], ?_, hsame⟩
    rw [hdata, FlagData.persist, Cache.saveSnapshot, hsave]
    exact hc

theorem Serves.run {identity : Identity} (hs : Serves identity s) {es : List UpdateEvent}
    (h : s.run es = some s') : Serves identity s' :=
  run_induction (motive := fun _ s => Serves identity s) hs (fun _ _ _ _ _ hm => hm.step) h

/-- A call stores what it has read. -/
theorem Serves.stores_of_save {identity : Identity} (hs : Serves identity s) {n : Nat} {now : Int}
    (h : s.step (.act n (.save now)) = some s') :
    ∃ step changes snapshot, s.calls[n]? = some ⟨step, .seen changes snapshot⟩ ∧
      s'.Stores identity snapshot := by
  obtain ⟨⟨step, stage⟩, data, _, hu, hact, rfl⟩ := step_act h
  obtain ⟨changes, snapshot, rfl, rfl, -⟩ := FlagData.act_save hact
  refine ⟨step, changes, snapshot, hu, ?_⟩
  -- The identity in the update may differ from the current one as a value, but not in its place.
  obtain ⟨storage, index, hsave, htext⟩ :=
    Cache.text?_save hs.isEnabled step.addressee snapshot.encode now
  have hsame : identity.same step.addressee = true := hs.addressed _ (List.mem_of_getElem? hu)
  rw [← Identity.cacheKey_of_same hsame] at htext
  simp only [Stores, FlagData.persist, Cache.saveSnapshot, hsave]
  exact htext

/-- **The last save counts**, with the items that its call had read. -/
theorem LastSaved.stores {identity : Identity} {s₀ seen : Overlap σ} (h₀ : Serves identity s₀)
    {es : List UpdateEvent} (hlast : LastSaved s₀ es seen) (h : s₀.run es = some s) :
    s.Stores identity seen.data.snapshot := by
  obtain ⟨earlier, between, later, n, now, rfl, hseen, hlater⟩ := hlast
  obtain ⟨s₁, s₂, h₁, hread, hrest⟩ := run_append_cons h
  cases hseen.symm.trans h₁
  obtain ⟨s₃, s₄, hbetween, hsave, hend⟩ := run_append_cons hrest
  have hserves : Serves identity s₃ := ((h₀.run hseen).step hread).run hbetween
  -- The call still has what it read in `seen` when it saves, and nobody saves after it.
  obtain ⟨step', changes', snapshot, hu', hstores⟩ := hserves.stores_of_save hsave
  obtain ⟨⟨step, stage⟩, data, _, hu, hact, rfl⟩ := step_act hread
  obtain ⟨changes, rfl, rfl, rfl⟩ := FlagData.act_read hact
  obtain ⟨hn, -⟩ := List.getElem?_eq_some_iff.1 hu
  have hsame : snapshot = seen.data.snapshot :=
    seen_of_run hbetween (List.getElem?_set_self hn) hu'
  rw [Stores, cache_of_run hend hlater, ← hsame]
  exact hstores

omit [Storage σ] [ReliableStorage σ] in
theorem serves_around {d : FlagData σ} (hc : d.cache.isEnabled = true) :
    Serves d.identity (around d) :=
  ⟨rfl, hc, fun _ hu => absurd hu List.not_mem_nil⟩

/-- What can be loaded is what the call that saved last had read before. -/
theorem LastSaved.loadSnapshot {d : FlagData σ} (hc : d.cache.isEnabled = true)
    {es : List UpdateEvent} {seen : Overlap σ} (hlast : LastSaved (around d) es seen)
    (h : (around d).run es = some s) (now : Int) :
    (s.data.cache.loadSnapshot s.data.identity now).1 = seen.data.snapshot.loaded? := by
  have hs : Serves d.identity s := (serves_around hc).run h
  rw [hs.identity_eq]
  exact Cache.loadSnapshot_fst hs.isEnabled (hlast.stores (serves_around hc) h) now

/-- **When nothing is lost**: once all calls have returned, the cache gives back the items exactly
if what the last call to save had read reads back as what is there now. -/
theorem loadSnapshot_iff_kept {d : FlagData σ} (hc : d.cache.isEnabled = true)
    {es : List UpdateEvent} (h : (around d).run es = some s) (hend : s.AtRest) :
    (∀ now, (s.data.cache.loadSnapshot s.data.identity now).1 = some s.data.snapshot) ↔
      Kept (around d) es s := by
  have hidle (hnone : ∀ e ∈ es, e.isSave = false) : s.data.cache = d.cache ∧
      s.data.snapshot = d.snapshot :=
    ⟨cache_of_run h hnone, congrArg ItemStore.snapshot (store_of_run h hnone hend)⟩
  have hidentity : s.data.identity = d.identity :=
    ((serves_around hc).run h).identity_eq
  constructor
  · intro hload
    rcases exists_lastSaved h with hnone | ⟨seen, hlast⟩
    · refine .unsaved hnone fun now => ?_
      obtain ⟨hcache, hsnapshot⟩ := hidle hnone
      rw [hcache, hsnapshot, hidentity] at hload
      exact hload now
    · exact .saved hlast ((hlast.loadSnapshot hc h 0).symm.trans (hload 0))
  · rintro (⟨hlast, hback⟩ | ⟨hnone, hback⟩) now
    · exact (hlast.loadSnapshot hc h now).trans hback
    · obtain ⟨hcache, hsnapshot⟩ := hidle hnone
      rw [hcache, hsnapshot, hidentity]
      exact hback now

/-! ### Items off a wire -/

omit [ReliableStorage σ] in
/-- Updates off a wire leave the items as they can come off a wire. -/
theorem wired_of_run {identity : Identity} {d : FlagData σ} (hd : d.store.Wired)
    {es : List UpdateEvent} (hes : ∀ step, .call step ∈ es → FlagData.Received identity step)
    (h : (around d).run es = some s) : s.data.store.Wired := by
  -- The calls carry their updates along until they apply them, so these are part of the invariant.
  refine (run_induction (motive := fun es s =>
    (∀ step, .call step ∈ es → FlagData.Received identity step) →
      s.data.store.Wired ∧ ∀ u ∈ s.calls, FlagData.Received identity u.step)
    (fun _ => ⟨hd, fun _ hu => absurd hu List.not_mem_nil⟩) ?_ h hes).1
  intro es e s₁ s₂ _ hm hstep hes
  obtain ⟨hwired, hcalls⟩ := hm fun step hmem => hes step (List.mem_append_left _ hmem)
  refine ⟨?_, fun u hu => ?_⟩
  · rcases store_of_step hstep with hkept | ⟨n, u, changes, -, hu, hafter, -⟩
    · rwa [hkept]
    · rw [hafter]
      exact (hcalls u hu).wired hwired
  · rcases mem_calls_of_step hstep hu with ⟨v, hv, heq⟩ | ⟨rfl, -⟩
    · rw [← heq]
      exact hcalls v hv
    · exact hes u.step (by simp)

/-- **For updates off a wire nothing is lost exactly if the last call to save had read what is there
now, and no item is too deep.** -/
theorem loadSnapshot_iff_of_received {identity : Identity} {d : FlagData σ}
    (hd : FlagData.Streamed identity d) {es : List UpdateEvent}
    (hes : ∀ step, .call step ∈ es → FlagData.Received identity step) {seen : Overlap σ}
    (hlast : LastSaved (around d) es seen) (h : (around d).run es = some s) (now : Int) :
    (s.data.cache.loadSnapshot s.data.identity now).1 = some s.data.snapshot ↔
      seen.data.snapshot = s.data.snapshot ∧ seen.data.store.IsShallow := by
  have hwired : seen.data.store.Wired := by
    obtain ⟨earlier, between, later, n, now, rfl, hseen, -⟩ := hlast
    exact wired_of_run hd.wired (fun step hmem => hes step (List.mem_append_left _ hmem)) hseen
  rw [hlast.loadSnapshot hd.isEnabled h now]
  exact hwired.loaded?_eq_some_iff

/-! ### Two calls -/

open FlagData (guest blank nested)

/-- Two calls with an item each. -/
def pair : List UpdateEvent :=
  [.call (.item guest (nested "a" 0)), .call (.item guest (nested "b" 0))]

/-- Both calls apply their updates before any of them reads. -/
def readLate : List UpdateEvent :=
  pair ++ [.act 0 .apply, .act 1 .apply, .act 0 .read, .act 1 .read, .act 1 (.save 1),
    .act 0 (.save 2), .act 0 .tell, .act 1 .tell]

theorem received_pair {step : DataStep} (h : .call step ∈ pair) : FlagData.Received guest step := by
  simp only [pair, List.mem_cons, UpdateEvent.call.injEq, List.not_mem_nil, or_false] at h
  rcases h with rfl | rfl
  · exact FlagData.received_nested guest (by decide) (by decide)
  · exact FlagData.received_nested guest (by decide) (by decide)

theorem wired_blank : blank.store.Wired := by
  have hstore : blank.store = ∅ := rfl
  rw [hstore]
  exact ItemStore.wired_empty

omit [Storage σ] [ReliableStorage σ] in
theorem atRest_of_stages {n : Nat} (h : s.calls.map (·.stage) = List.replicate n (.telling [])) :
    s.AtRest := by
  intro u hu
  have hmem : u.stage ∈ s.calls.map (·.stage) := List.mem_map_of_mem hu
  exact List.eq_of_mem_replicate (h ▸ hmem)

/-- The call that has read first saves last, and nothing is lost. -/
theorem loadSnapshot_readLate : ∃ s, (around blank).run readLate = some s ∧ s.AtRest ∧
    ∀ now, (s.data.cache.loadSnapshot s.data.identity now).1 = some s.data.snapshot := by
  let applied : List UpdateEvent := pair ++ [.act 0 .apply, .act 1 .apply]
  have hseen : ((around blank).run applied).map (·.data.store) =
      some ((ItemStore.offer ∅ (nested "a" 0)).offer (nested "b" 0)) := rfl
  have hfinal : ((around blank).run readLate).map (fun s => s.calls.map (·.stage)) =
      some (List.replicate 2 (.telling [])) := rfl
  obtain ⟨seen, hseen, hstore⟩ := Option.map_eq_some_iff.1 hseen
  obtain ⟨s, h, hstages⟩ := Option.map_eq_some_iff.1 hfinal
  have hlast : LastSaved (around blank) readLate seen :=
    ⟨applied, [.act 1 .read, .act 1 (.save 1)], [.act 0 .tell, .act 1 .tell], 0, 2, rfl, hseen,
      by simp [UpdateEvent.isSave]⟩
  have hsame : seen.data.snapshot = s.data.snapshot := by
    have hsplit : (around blank).run (applied ++ [.act 0 .read, .act 1 .read, .act 1 (.save 1),
        .act 0 (.save 2), .act 0 .tell, .act 1 .tell]) = some s := h
    obtain ⟨seen', hseen', hrest⟩ := run_append hsplit
    cases hseen.symm.trans hseen'
    exact (snapshot_of_run hrest (by simp)).symm
  have hwired : seen.data.store.Wired := by
    refine wired_of_run wired_blank (fun step hstep => received_pair ?_) hseen
    simpa [applied] using hstep
  have hshallow : seen.data.store.IsShallow := by
    have hempty : (∅ : ItemStore).IsShallow := fun key item hitem =>
      absurd hitem (ItemStore.not_stored?_empty key item)
    rw [hstore]
    exact (hempty.offer (by rw [FlagData.depth_nested]; decide)).offer
      (by rw [FlagData.depth_nested]; decide)
  have hend : s.AtRest := atRest_of_stages hstages
  refine ⟨s, h, hend, (loadSnapshot_iff_kept rfl h hend).2 (.saved hlast ?_)⟩
  exact hwired.loaded?_eq_some_iff.2 ⟨hsame, hshallow⟩

/-- The call that has read first saves last, although the other one applies its update then. -/
def readEarly : List UpdateEvent :=
  pair ++ [.act 0 .apply, .act 0 .read, .act 1 .apply, .act 1 .read, .act 1 (.save 1),
    .act 0 (.save 2), .act 0 .tell, .act 1 .tell]

/-- A single call has an item that is too deep for the text of a snapshot. -/
def readNever : List UpdateEvent :=
  [.call (.item guest (nested "a" 125)), .act 0 .apply, .act 0 .read, .act 0 (.save 1),
    .act 0 .tell]

/-- The update of the other call is lost, and an update that is too deep is lost without another. -/
theorem exists_loadSnapshot_ne :
    (∃ s, (around blank).run readEarly = some s ∧ s.AtRest ∧
      (s.data.cache.loadSnapshot s.data.identity 3).1 ≠ some s.data.snapshot) ∧
    (∃ s, (around blank).run readNever = some s ∧ s.AtRest ∧
      (s.data.cache.loadSnapshot s.data.identity 3).1 ≠ some s.data.snapshot) := by
  have hstreamed : FlagData.Streamed guest blank := ⟨rfl, rfl, wired_blank⟩
  constructor
  · -- The call that saves last has read before the other one was applied.
    have hseen : ((around blank).run (pair ++ [.act 0 .apply])).map
        (fun s => (s.data.snapshot.get? "b").isSome) = some false := rfl
    have hfinal : ((around blank).run readEarly).map (fun s =>
        ((s.data.snapshot.get? "b").isSome, s.calls.map (·.stage))) =
          some (true, List.replicate 2 (.telling [])) := rfl
    obtain ⟨seen, hseen, hmissing⟩ := Option.map_eq_some_iff.1 hseen
    obtain ⟨s, h, hthere⟩ := Option.map_eq_some_iff.1 hfinal
    obtain ⟨hthere, hstages⟩ := Prod.mk.inj hthere
    have hlast : LastSaved (around blank) readEarly seen :=
      ⟨pair ++ [.act 0 .apply], [.act 1 .apply, .act 1 .read, .act 1 (.save 1)],
        [.act 0 .tell, .act 1 .tell], 0, 2, rfl, hseen, by simp [UpdateEvent.isSave]⟩
    have hreceived : ∀ step, .call step ∈ readEarly → FlagData.Received guest step := by
      intro step hstep
      exact received_pair (by simpa [readEarly] using hstep)
    refine ⟨s, h, atRest_of_stages hstages, fun hload => ?_⟩
    obtain ⟨hsame, -⟩ := (loadSnapshot_iff_of_received hstreamed hreceived hlast h 3).1 hload
    rw [hsame, hthere] at hmissing
    cases hmissing
  · -- The only item is too deep for the text of a snapshot.
    have hseen : ((around blank).run [.call (.item guest (nested "a" 125)), .act 0 .apply]).map
        (·.data.store.stored? "a") = some (some (nested "a" 125)) := rfl
    have hfinal : ((around blank).run readNever).map (fun s => s.calls.map (·.stage)) =
        some (List.replicate 1 (.telling [])) := rfl
    obtain ⟨seen, hseen, hdeep⟩ := Option.map_eq_some_iff.1 hseen
    obtain ⟨s, h, hstages⟩ := Option.map_eq_some_iff.1 hfinal
    have hlast : LastSaved (around blank) readNever seen :=
      ⟨[.call (.item guest (nested "a" 125)), .act 0 .apply], [], [.act 0 .tell], 0, 1, rfl, hseen,
        by simp [UpdateEvent.isSave]⟩
    have hreceived : ∀ step, .call step ∈ readNever → FlagData.Received guest step := by
      intro step hstep
      obtain rfl : step = .item guest (nested "a" 125) := by simpa [readNever] using hstep
      exact FlagData.received_nested guest (by decide) (Nat.le_refl 125)
    refine ⟨s, h, atRest_of_stages hstages, fun hload => ?_⟩
    obtain ⟨-, hshallow⟩ := (loadSnapshot_iff_of_received hstreamed hreceived hlast h 3).1 hload
    have hdepth := hshallow "a" (nested "a" 125) hdeep
    rw [FlagData.depth_nested] at hdepth
    exact absurd hdepth (by decide)

end Overlap

end LiveFlags
