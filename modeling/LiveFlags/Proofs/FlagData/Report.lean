import LiveFlags.Proofs.FlagData.Steps
import LiveFlags.Proofs.Mirror

/-!
# What observers of the flags hear

Each step of the flags, be it a switch of the identity, a snapshot or an item, tells observers
exactly how the visible values differ afterwards, whatever the cache remembers. So an observer that
has the values of the beginning and follows all changes always knows the visible values.

Main statement: `told_of_run`.
-/

namespace LiveFlags

open Change

/-- What the cache remembers is keyed well. -/
theorem Cache.wellKeyed_of_loadSnapshot {σ : Type} [Storage σ] {c c' : Cache σ}
    {identity : Identity} {now : Int} {snapshot : Snapshot}
    (h : c.loadSnapshot identity now = (some snapshot, c')) : snapshot.WellKeyed := by
  unfold loadSnapshot at h
  split at h
  · cases h
  · split at h
    · cases h
      exact Snapshot.wellKeyed_rekeyed _
    · cases h

namespace FlagData

variable {σ : Type} [Storage σ]

/-! ### One step -/

omit [Storage σ] in
/-- A step from `d` to `d'` tells observers exactly what it changes: these changes wait for the
listeners, after those that waited before. -/
def Tells (d d' : FlagData σ) : Prop :=
  ∃ changes, d'.notifier = Notifier.notify d.notifier changes ∧
    d'.notifier.queue = d.notifier.queue ++ changes ∧ Reports d.get? d'.get? changes

omit [Storage σ] in
/-- What the notifier is told is in its queue, behind all that was there before. -/
theorem queue_of_notify {d d' : FlagData σ} {changes : List Change}
    (h : d'.notifier = Notifier.notify d.notifier changes) :
    d'.notifier.queue = d.notifier.queue ++ changes := by
  rw [h, Notifier.notify, Dispatcher.foldl_dispatch]

omit [Storage σ] in
/-- The notifier was told what there was to report. -/
theorem tells_of_notify {d d' : FlagData σ} {changes : List Change}
    (h : d'.notifier = Notifier.notify d.notifier changes) (hr : Reports d.get? d'.get? changes) :
    Tells d d' :=
  ⟨changes, h, queue_of_notify h, hr⟩

omit [Storage σ] in
/-- Silence is right if the items and the notifier are the same as before. -/
theorem tells_of_eq {d d' : FlagData σ} (hstore : d'.store = d.store)
    (hnotifier : d'.notifier = d.notifier) : Tells d d' := by
  have hsilent : Reports d.get? d'.get? [] := by
    refine reports_nil fun key => ?_
    simp only [get?, hstore]
    exact Alike.refl _
  have hnotify : d'.notifier = Notifier.notify d.notifier [] := hnotifier
  exact tells_of_notify hnotify hsilent

/-- The items of a switch are compared by the keys under which they stand. -/
theorem tells_switch (d : FlagData σ) (identity : Identity) (now : Int) :
    Tells d (d.switch identity now).2 := by
  refine tells_of_notify rfl ((reports_between _ _).congr (fun key => ?_) fun key => ?_)
  · exact (Snapshot.alike_rekeyed ⟨d.store.items⟩ key).trans (d.store.alike_get? key)
  · exact (d.switch identity now).2.store.alike_get? key

/-- A whole set of flags is told change by change. -/
theorem tells_init (d : FlagData σ) (identity : Identity) (snapshot : Snapshot) (now : Int) :
    Tells d (d.init identity snapshot now) := by
  unfold init
  split
  · exact tells_of_notify rfl (d.store.reports_init snapshot)
  · exact tells_of_eq rfl rfl

theorem tells_upsert (d : FlagData σ) (identity : Identity) (item : Item) (now : Int) :
    Tells d (d.upsert identity item now) := by
  unfold upsert
  split
  · split
    · next d' changes h =>
      simp only [applyItem, Option.map_eq_some_iff] at h
      obtain ⟨⟨store, told⟩, hupsert, heq⟩ := h
      cases heq
      exact tells_of_notify rfl (ItemStore.reports_upsert hupsert)
    · exact tells_of_eq rfl rfl
  · exact tells_of_eq rfl rfl

/-- **Every step tells exactly what it changes.** -/
theorem tells_take (d : FlagData σ) (entry : DataStep × Int) : Tells d (d.take entry) := by
  obtain ⟨step, now⟩ := entry
  cases step with
  | switch identity => exact d.tells_switch identity now
  | snapshot identity snapshot => exact d.tells_init identity snapshot now
  | item identity item => exact d.tells_upsert identity item now

/-! ### A run -/

omit [Storage σ] in
/-- An observer that began with the values of `d₀` and has followed all changes since knows the
visible values of `d`. -/
def Mirrored (d₀ d : FlagData σ) : Prop :=
  ∃ log, d.notifier = Notifier.notify d₀.notifier log ∧
    d.notifier.queue = d₀.notifier.queue ++ log ∧
    Mirror.Agrees (log.foldl Mirror.follow d₀.values) d.get?

/-- The flags at the beginning, with the observers that are there by then. -/
def observed (identity : Identity) (cache : Cache σ) (now : Int) (notifier : Notifier) :
    FlagData σ :=
  { mount identity cache now with notifier }

/-- A mirror that begins with the flags shows them. -/
theorem mirrored_observed (identity : Identity) (cache : Cache σ) (now : Int)
    (notifier : Notifier) :
    Mirrored (observed identity cache now notifier) (observed identity cache now notifier) := by
  refine ⟨[], rfl, (List.append_nil _).symm, ItemStore.agrees_values ?_⟩
  simp only [observed, mount]
  split
  · next snapshot cache' h => exact Cache.wellKeyed_of_loadSnapshot h
  · intro key item h
    cases Std.ExtTreeMap.getElem?_empty.symm.trans h

omit [Storage σ] in
theorem Mirrored.trans_tells {d₀ d d' : FlagData σ} (hm : Mirrored d₀ d) (h : Tells d d') :
    Mirrored d₀ d' := by
  obtain ⟨log, hlog, -, hagrees⟩ := hm
  obtain ⟨changes, hchanges, -, hreports⟩ := h
  have hboth : d'.notifier = Notifier.notify d₀.notifier (log ++ changes) := by
    rw [hchanges, hlog]
    exact List.foldl_append.symm
  refine ⟨log ++ changes, hboth, queue_of_notify hboth, ?_⟩
  rw [List.foldl_append]
  exact hagrees.follow hreports

theorem mirrored_run {d₀ d : FlagData σ} (hm : Mirrored d₀ d) (entries : List (DataStep × Int)) :
    Mirrored d₀ (entries.foldl take d) := by
  induction entries generalizing d with
  | nil => exact hm
  | cons entry entries ih => exact ih (hm.trans_tells (d.tells_take entry))

/-- What it means that observers can rely on what they hear, after the flags have gone from `d₀` to
`d`. -/
structure Told (d₀ d : FlagData σ) : Prop where
  /-- Any next step is told exactly. -/
  next : ∀ entry, Tells d (d.take entry)
  /-- What was told so far adds up to the visible values. -/
  mirrored : Mirrored d₀ d

/-- **Observers can rely on what they hear**, after any run that begins with whatever the cache
remembers. -/
theorem told_of_run (identity : Identity) (cache : Cache σ) (now : Int) (notifier : Notifier)
    (entries : List (DataStep × Int)) :
    Told (observed identity cache now notifier)
      (entries.foldl take (observed identity cache now notifier)) where
  next := tells_take _
  mirrored := mirrored_run (mirrored_observed identity cache now notifier) entries

end FlagData

end LiveFlags
