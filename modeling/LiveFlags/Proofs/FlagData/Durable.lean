import LiveFlags.Proofs.Cache.Reliable
import LiveFlags.Proofs.Convergence
import LiveFlags.Proofs.Event
import LiveFlags.Proofs.FlagData.Report

/-!
# What survives in the cache

With each update that the flags take, the cache gets the text of their snapshot. Whether they
survive there depends on whether that text can be read again. It can be, up to one thing: a stream
may send an item whose value or reason nests 126 containers, since it stands alone in its text, but
in the text of a snapshot there is room for 125. As soon as one item in memory goes beyond that,
the text of all of them is refused when it is read, and the flags of the identity are lost for the
next switch and for the next start. As long as none does, they come back as they were.

So the flags are `Durable` exactly if no item of theirs is deeper than 125. The items that came off
the wire are readable in every other respect (`ItemStore.Wired`), and the stored text is that of the
current snapshot (`Persisted`).

Main statement: `durable_iff_isShallow`.
-/

namespace LiveFlags

/-- Identities that are the same have the same place in the cache. -/
theorem Identity.cacheKey_of_same {a b : Identity} (h : a.same b = true) :
    a.cacheKey = b.cacheKey := by
  simp only [same, Bool.and_eq_true, beq_iff_eq] at h
  simp only [cacheKey, h.1.1, h.1.2]

theorem Identity.same_refl (identity : Identity) : identity.same identity = true := by
  simp [same, Json.sameMembers_refl]

/-! ### Items off the wire -/

namespace ItemStore

/-- The items are as they can come off a wire: keyed well, readable, and without floating-point
numbers. -/
structure Wired (s : ItemStore) : Prop where
  wellKeyed : Snapshot.WellKeyed ⟨s.items⟩
  readable : Snapshot.Readable 126 ⟨s.items⟩
  whole : Snapshot.IsWhole ⟨s.items⟩

/-- No item is too deep for the text of a snapshot. -/
def IsShallow (s : ItemStore) : Prop :=
  ∀ key item, s.stored? key = some item → item.depth ≤ 125

/-- The items after an update. -/
def after (s : ItemStore) : DataStep → ItemStore
  | .switch _ => s
  | .snapshot _ snapshot => ofSnapshot snapshot
  | .item _ item => s.offer item

/-- An item that is new enough is taken. -/
theorem upsert_of_accepts {s : ItemStore} {item : Item} (h : s.accepts item = true) :
    ∃ changes, s.upsert item = some (s.offer item, changes) := by
  simp [offer, upsert, h]

theorem not_stored?_empty (key : String) (item : Item) :
    (∅ : ItemStore).stored? key ≠ some item := by
  intro h
  cases Std.ExtTreeMap.getElem?_empty.symm.trans h

theorem wired_empty : (∅ : ItemStore).Wired where
  wellKeyed key item h := absurd h (not_stored?_empty key item)
  readable key item h := absurd h (not_stored?_empty key item)
  whole key item h := absurd h (not_stored?_empty key item)

theorem Wired.snapshot_eq {s : ItemStore} (h : s.Wired) : s.snapshot = ⟨s.items⟩ :=
  h.wellKeyed.rekeyed_eq

/-- What holds of all items goes on if it holds of an item that is offered. -/
theorem forall_stored?_offer {s : ItemStore} {item : Item} {p : String → Item → Prop}
    (h : ∀ key i, s.stored? key = some i → p key i) (hitem : p item.key item) :
    ∀ key i, (s.offer item).stored? key = some i → p key i := by
  intro key i hi
  rw [stored?_offer] at hi
  split at hi
  · next hnew =>
    obtain ⟨-, rfl⟩ := hnew
    cases hi
    exact hitem
  · exact h key i hi

/-- An item that is not too deep makes no store too deep. -/
theorem IsShallow.offer {s : ItemStore} {item : Item} (h : s.IsShallow)
    (hitem : item.depth ≤ 125) : (s.offer item).IsShallow :=
  forall_stored?_offer h hitem

theorem Wired.offer {s : ItemStore} {item : Item} (h : s.Wired) (hitem : item.Readable 126)
    (hwhole : item.isWhole = true) : (s.offer item).Wired where
  wellKeyed := forall_stored?_offer (p := fun key i => i.key = key) h.wellKeyed rfl
  readable := forall_stored?_offer h.readable hitem
  whole := forall_stored?_offer h.whole hwhole

/-- What comes off a wire is kept as it came. -/
theorem Wired.after {s : ItemStore} {step : DataStep} (h : s.Wired) (hstep : step.Readable 126)
    (hwhole : step.IsWhole) : (s.after step).Wired := by
  cases step with
  | switch identity => exact h
  | snapshot identity snapshot => exact ⟨hstep.1, hstep.2, hwhole⟩
  | item identity item => exact h.offer hstep hwhole

end ItemStore

/-- A snapshot that the cache gives back has readable items. -/
theorem Cache.readable_of_loadSnapshot {σ : Type} [Storage σ] {c c' : Cache σ}
    {identity : Identity} {now : Int} {snapshot : Snapshot}
    (h : c.loadSnapshot identity now = (some snapshot, c')) : snapshot.Readable 125 := by
  unfold loadSnapshot at h
  split at h
  · cases h
  · split at h
    · next hdecode =>
      cases h
      exact (Snapshot.readable_of_decode hdecode).rekeyed
    · cases h

namespace FlagData

variable {σ : Type} [Storage σ]

/-! ### At the beginning -/

theorem mount_identity (identity : Identity) (cache : Cache σ) (now : Int) :
    (mount identity cache now).identity = identity := by
  unfold mount
  split <;> rfl

/-- To begin with an identity touches what the cache remembers for it. -/
theorem mount_cache (identity : Identity) (cache : Cache σ) (now : Int) :
    (mount identity cache now).cache = (cache.loadSnapshot identity now).2 := by
  unfold mount
  split <;> next h => rw [h]

/-- The flags begin with what the cache remembers for the identity, if it can be read. -/
theorem mount_store (identity : Identity) (cache : Cache σ) (now : Int) :
    (mount identity cache now).store =
      .ofSnapshot ((cache.loadSnapshot identity now).1.getD ∅) := by
  unfold mount
  split <;> next h => rw [h]; rfl

/-- What the cache gave at the beginning is as it can come off a wire. -/
theorem wired_mount {identity : Identity} {cache : Cache σ} {now : Int}
    (h : Snapshot.IsWhole ⟨(mount identity cache now).store.items⟩) :
    (mount identity cache now).store.Wired := by
  rw [mount_store] at h ⊢
  cases hload : cache.loadSnapshot identity now with | mk loaded cache' =>
  rw [hload] at h
  cases loaded with
  | none => exact ItemStore.wired_empty
  | some snapshot =>
    have hreadable := Cache.readable_of_loadSnapshot hload
    -- What fitted into a snapshot has one level to spare on its own.
    have hdepth (key : String) (item : Item) (hitem : snapshot.items[key]? = some item) :
        item.depth ≤ 126 :=
      (hreadable key item hitem).depth_le.trans (by decide)
    exact ⟨Cache.wellKeyed_of_loadSnapshot hload, hreadable.of_depth_le hdepth, h⟩

/-! ### Updates -/

omit [Storage σ] in
/-- Whether a step is an update for the current identity. -/
def isAddressed (d : FlagData σ) : DataStep → Bool
  | .switch _ => false
  | .snapshot identity _ => d.isFor identity
  | .item identity _ => d.isFor identity

omit [Storage σ] in
/-- Whether an update for the current identity is taken. An item may be too old. -/
def accepts (d : FlagData σ) : DataStep → Bool
  | .item _ item => d.store.accepts item
  | _ => true

/-- An update that is taken goes into the items, and from there into the cache. -/
theorem perform_of_accepts {d : FlagData σ} {step : DataStep} (hfor : d.isAddressed step = true)
    (h : d.accepts step = true) (now : Int) :
    ∃ identity changes, d.isFor identity = true ∧ d.perform step now =
      (({ d with store := d.store.after step } : FlagData σ).persist identity
        (d.store.after step).snapshot now).announce changes := by
  cases step with
  | switch identity => cases hfor
  | snapshot identity snapshot =>
    refine ⟨identity, (d.store.init snapshot).2, hfor, ?_⟩
    exact if_pos hfor
  | item identity item =>
    obtain ⟨changes, hupsert⟩ := ItemStore.upsert_of_accepts h
    refine ⟨identity, changes, hfor, (if_pos hfor).trans ?_⟩
    simp only [applyItem, hupsert]
    rfl

/-- An item that is too old leaves the flags as they are. -/
theorem perform_of_refused {d : FlagData σ} {step : DataStep} (hfor : d.isAddressed step = true)
    (h : d.accepts step = false) (now : Int) : d.perform step now = d := by
  cases step with
  | switch identity => cases hfor
  | snapshot identity snapshot => cases h
  | item identity item =>
    refine (if_pos hfor).trans ?_
    simp only [applyItem, ItemStore.upsert_eq_none_iff.2 h]
    rfl

variable [ReliableStorage σ]

theorem isEnabled_mount {identity : Identity} {storage : σ} {name : String} {capacity : Int}
    (h : capacity ≠ 0) (now : Int) :
    (mount identity (Cache.mount storage name capacity) now).cache.isEnabled = true := by
  obtain ⟨storage', index, failures, heq, -⟩ := Cache.mount_eq storage name capacity
  obtain ⟨storage'', index', failures', hload, -⟩ :=
    (Cache.mount storage name capacity).loadSnapshot_frame identity now
  rw [mount_cache, hload, heq]
  simpa [Cache.isEnabled] using h

/-- An update that is taken goes into the items, and the text of the new snapshot into the cache. -/
theorem take_of_accepts {d : FlagData σ} {step : DataStep} (hc : d.cache.isEnabled = true)
    (hfor : d.isAddressed step = true) (h : d.accepts step = true) (now : Int) :
    ∃ storage index notifier, d.take (step, now) =
        { d with
          store := d.store.after step
          cache := { d.cache with storage, index, failures := [] }
          notifier } ∧
      ReliableStorage.text? storage d.cache.dataSpace d.identity.cacheKey =
        some (d.store.after step).snapshot.encode := by
  obtain ⟨identity, changes, hidentity, hperform⟩ := perform_of_accepts hfor h now
  -- The identity in the update may differ from the current one as a value, but not in its place.
  obtain ⟨storage, index, hsave, htext⟩ :=
    Cache.text?_save hc identity (d.store.after step).snapshot.encode now
  refine ⟨storage, index, d.notifier.notify changes, ?_, ?_⟩
  · rw [take, hperform]
    simp only [persist, Cache.saveSnapshot, hsave]
    rfl
  · rw [Identity.cacheKey_of_same hidentity]
    exact htext

/-- The cache holds the text of the snapshot. -/
def Persisted (d : FlagData σ) : Prop :=
  d.cache.text? d.cache.dataSpace d.identity.cacheKey = some d.snapshot.encode

/-! ### What can be read again -/

/-- As long as no item is too deep, the text of the snapshot is read back wherever it stands. -/
theorem loadSnapshot_of_text {d : FlagData σ} (hwired : d.store.Wired) (h : d.store.IsShallow)
    {c : Cache σ} (hc : c.isEnabled = true)
    (htext : c.text? c.dataSpace d.identity.cacheKey = some d.snapshot.encode) (now : Int) :
    (c.loadSnapshot d.identity now).1 = some d.snapshot := by
  have hsnapshot : d.snapshot = ⟨d.store.items⟩ := hwired.snapshot_eq
  have hdecode : Snapshot.decode d.snapshot.encode = .ok d.snapshot := by
    rw [hsnapshot]
    exact Snapshot.decode_encode (hwired.readable.of_depth_le h) hwired.whole
  rw [Cache.loadSnapshot_fst hc htext, hdecode, hsnapshot]
  exact congrArg some hwired.wellKeyed.rekeyed_eq

omit [ReliableStorage σ] in
/-- What was read from the cache is not too deep. -/
theorem isShallow_of_loadSnapshot {d : FlagData σ} (hwired : d.store.Wired) {now : Int}
    (h : (d.cache.loadSnapshot d.identity now).1 = some d.snapshot) : d.store.IsShallow := by
  have hreadable := Cache.readable_of_loadSnapshot (Prod.ext h rfl)
  have hsnapshot : d.snapshot = ⟨d.store.items⟩ := hwired.snapshot_eq
  rw [hsnapshot] at hreadable
  exact fun key item hitem => (hreadable key item hitem).depth_le

/-- The flags survive in the cache. -/
structure Durable (d : FlagData σ) : Prop where
  /-- The cache gives back the snapshot. -/
  loaded : ∀ now, (d.cache.loadSnapshot d.identity now).1 = some d.snapshot
  /-- The items are there again after a switch to another identity and back. -/
  returned : ∀ other leave back,
    ((d.switch other leave).2.switch d.identity back).2.store = d.store
  /-- The items are there again after a start over the same storage. -/
  restarted : ∀ capacity, capacity ≠ 0 → ∀ now,
    (mount d.identity (Cache.mount d.cache.storage d.cache.name capacity) now).store = d.store

/-- **Flags that are persisted are durable if no item is too deep.** -/
theorem Persisted.durable {d : FlagData σ} (hd : d.Persisted) (hc : d.cache.isEnabled = true)
    (hwired : d.store.Wired) (h : d.store.IsShallow) : d.Durable := by
  have hstore : ItemStore.ofSnapshot d.snapshot = d.store :=
    congrArg ItemStore.ofSnapshot hwired.snapshot_eq
  constructor
  case loaded => exact loadSnapshot_of_text hwired h hc hd
  case returned =>
    intro other leave back
    -- The other identity may be unknown or its text damaged; the texts of the cache stay anyway.
    obtain ⟨storage, index, failures, hleave, htext⟩ := d.cache.loadSnapshot_frame other leave
    have hback := loadSnapshot_of_text (c := { d.cache with storage, index, failures }) hwired h hc
      ((htext _).trans hd) back
    have hcache : (d.switch other leave).2.cache = { d.cache with storage, index, failures } :=
      hleave
    have hswitch : ((d.switch other leave).2.switch d.identity back).2.store =
        .ofSnapshot (((d.switch other leave).2.cache.loadSnapshot d.identity back).1.getD ∅) := rfl
    rw [hswitch, hcache, hback]
    exact hstore
  case restarted =>
    intro capacity hcap now
    -- The index plays no part in what is loaded, so it does not matter whether it can be read.
    obtain ⟨storage, index, failures, hmount, htext⟩ :=
      Cache.mount_eq d.cache.storage d.cache.name capacity
    have hback := loadSnapshot_of_text
      (c := { storage, name := d.cache.name, capacity, index, failures }) hwired h
      (by simpa [Cache.isEnabled] using hcap) ((congrFun (congrFun htext _) _).trans hd) now
    rw [mount_store, hmount, hback]
    exact hstore

/-! ### A run of updates -/

/-- What a stream sent for an identity, in whole numbers. -/
def Received (identity : Identity) (step : DataStep) : Prop :=
  ∃ (name data : String) (event : StreamEvent) (addressee : Identity),
    StreamEvent.parse name data = .ok (some event) ∧ identity.same addressee = true ∧
      event.dataStep? addressee = some step ∧ step.IsWhole

/-- Flags that have taken only what a stream sent for their identity. -/
structure Streamed (identity : Identity) (d : FlagData σ) : Prop where
  identity_eq : d.identity = identity
  isEnabled : d.cache.isEnabled = true
  wired : d.store.Wired

omit [Storage σ] [ReliableStorage σ] in
/-- A stream is opened for the current identity, and so is what it sends. -/
theorem Received.isAddressed {d : FlagData σ} {step : DataStep} (h : Received d.identity step) :
    d.isAddressed step = true := by
  obtain ⟨name, data, event, addressee, -, hsame, hstep, -⟩ := h
  cases event <;> cases hstep <;> exact hsame

/-- Whatever a stream sends keeps the items as they can come off a wire. -/
theorem Received.wired {s : ItemStore} {identity : Identity} {step : DataStep}
    (h : Received identity step) (hs : s.Wired) : (s.after step).Wired := by
  obtain ⟨name, data, event, addressee, hparse, -, hstep, hwhole⟩ := h
  exact hs.after (StreamEvent.readable_of_parse hparse hstep) hwhole

/-- Each update leaves the identity as it is, the cache turned on, and the items as they can come
off a wire. -/
theorem Streamed.take {identity : Identity} {d : FlagData σ} (hd : Streamed identity d)
    {step : DataStep} (h : Received identity step) (now : Int) :
    Streamed identity (d.take (step, now)) := by
  obtain ⟨rfl, hc, hwired⟩ := hd
  cases haccepts : d.accepts step with
  | false =>
    rw [FlagData.take, perform_of_refused h.isAddressed haccepts]
    exact ⟨rfl, hc, hwired⟩
  | true =>
    obtain ⟨storage, index, notifier, htake, -⟩ := take_of_accepts hc h.isAddressed haccepts now
    rw [htake]
    exact ⟨rfl, hc, h.wired hwired⟩

theorem Streamed.foldl_take {identity : Identity} {d : FlagData σ} (hd : Streamed identity d)
    {entries : List (DataStep × Int)} (h : ∀ entry ∈ entries, Received identity entry.1) :
    Streamed identity (entries.foldl FlagData.take d) := by
  induction entries generalizing d with
  | nil => exact hd
  | cons entry entries ih =>
    exact ih (hd.take (h entry (by simp)) entry.2) fun e he => h e (by simp [he])

/-- With an update that is taken the flags are persisted. -/
theorem Streamed.persisted_take {identity : Identity} {d : FlagData σ} (hd : Streamed identity d)
    {step : DataStep} (h : Received identity step) (haccepts : d.accepts step = true) (now : Int) :
    (d.take (step, now)).Persisted := by
  obtain ⟨rfl, hc, -⟩ := hd
  obtain ⟨storage, index, notifier, htake, htext⟩ :=
    take_of_accepts hc h.isAddressed haccepts now
  rw [htake]
  exact htext

/-- **After each update that is taken, the flags are durable exactly if no item is too deep**: in
every run of updates that a stream sent for the current identity, over any storage that never fails,
whatever it held before (in whole numbers as well). -/
theorem durable_iff_isShallow (storage : σ) (name : String) {capacity : Int} (hcap : capacity ≠ 0)
    (identity : Identity) (now : Int)
    (hwhole : Snapshot.IsWhole
      ⟨(mount identity (Cache.mount storage name capacity) now).store.items⟩)
    {entries : List (DataStep × Int)} (hentries : ∀ entry ∈ entries, Received identity entry.1)
    {last : DataStep × Int} (hlast : Received identity last.1) {d : FlagData σ}
    (hd : entries.foldl take (mount identity (Cache.mount storage name capacity) now) = d)
    (haccepts : d.accepts last.1 = true) :
    (d.take last).Durable ↔ (d.take last).store.IsShallow := by
  have hmount : Streamed identity (mount identity (Cache.mount storage name capacity) now) :=
    ⟨mount_identity .., isEnabled_mount hcap now, wired_mount hwhole⟩
  have hbefore : Streamed identity d := hd ▸ hmount.foldl_take hentries
  have hafter := hbefore.take hlast last.2
  constructor
  · intro h
    exact isShallow_of_loadSnapshot hafter.wired (h.loaded 0)
  · intro h
    exact (hbefore.persisted_take hlast haccepts last.2).durable hafter.isEnabled hafter.wired h

/-! ### A list that is too deep -/

/-- An item whose value is a list in `n` other lists. -/
def nested (key : String) (n : Nat) : Item :=
  { key, version := 1, value := Nat.repeat (fun value => .arr [value]) n (.arr []) }

theorem depth_nested (key : String) (n : Nat) : (nested key n).depth = n + 1 := by
  have hvalue : (Nat.repeat (fun value => Json.arr [value]) n (.arr [])).depth = n + 1 := by
    induction n with
    | zero => rfl
    | succ n ih => simp [Nat.repeat, Json.depth, Json.depthItems, ih]
  simp [nested, Item.depth, hvalue]

theorem isWhole_nested (key : String) (n : Nat) : (nested key n).isWhole = true := by
  have hvalue : (Nat.repeat (fun value => Json.arr [value]) n (.arr [])).isWhole = true := by
    induction n with
    | zero => rfl
    | succ n ih => simpa [Nat.repeat, Json.isWhole_arr] using ih
  simp [nested, Item.isWhole, hvalue]

theorem readable_nested (key : String) (n : Nat) : (nested key n).Readable (n + 1) := by
  refine ⟨Nat.one_lt_two_pow (by decide), ?_, nofun, nofun, nofun⟩
  induction n with
  | zero => exact .arr nofun
  | succ n ih => exact .arr (by simpa [nested, Nat.repeat] using ih)

/-- A stream may send up to 126 lists inside one another. -/
theorem received_nested (identity : Identity) {key : String} (hkey : key ≠ "") {n : Nat}
    (hn : n ≤ 125) : Received identity (.item identity (nested key n)) := by
  have hreadable : (nested key n).Readable 126 :=
    (readable_nested key n).of_depth_le (by rw [depth_nested]; omega)
  have hdecode : Item.decode (nested key n).toJson.text = .ok (nested key n) :=
    Json.decode_text (hreadable.reads (isWhole_nested key n))
  exact ⟨"patch", _, .patch (nested key n), identity, StreamEvent.parse_patch hdecode hkey,
    identity.same_refl, rfl, isWhole_nested key n⟩

/-- Somebody without attributes. -/
def guest : Identity where
  key := "u"

/-- The flags at the beginning, over an empty storage and without a limit on identities. -/
def blank : FlagData MemoryStorage :=
  mount guest (Cache.mount ∅ "flags" (-1)) 0

/-- Lists of 125 levels survive, beside those of other items. -/
theorem durable_nested :
    (([(.item guest (nested "a" 0), 1)].foldl take blank).take
      (.item guest (nested "b" 124), 2)).Durable := by
  have hstore : blank.store = ∅ := rfl
  have hwhole : Snapshot.IsWhole ⟨blank.store.items⟩ := by
    rw [hstore]
    exact ItemStore.wired_empty.whole
  have hreceived (entry : DataStep × Int)
      (hentry : entry ∈ [(DataStep.item guest (nested "a" 0), (1 : Int))]) :
      Received guest entry.1 := by
    obtain rfl := List.mem_singleton.1 hentry
    exact received_nested _ (by decide) (by decide)
  have hshallow : ((ItemStore.offer ∅ (nested "a" 0)).offer (nested "b" 124)).IsShallow := by
    have hempty : (∅ : ItemStore).IsShallow := fun key item h =>
      absurd h (ItemStore.not_stored?_empty key item)
    exact (hempty.offer (by rw [depth_nested]; decide)).offer (by rw [depth_nested])
  exact (durable_iff_isShallow ∅ "flags" (by decide) guest 0 hwhole hreceived
    (received_nested _ (by decide) (by decide)) rfl rfl).2 hshallow

/-- An item that is one list deeper is taken as well, but the cache does not give the flags back. -/
theorem exists_not_loaded :
    ∃ step, Received guest step ∧ blank.accepts step = true ∧
      ((blank.take (step, 1)).cache.loadSnapshot guest 2).1 ≠
        some (blank.take (step, 1)).snapshot := by
  have hreceived : Received guest (.item guest (nested "a" 125)) :=
    received_nested guest (by decide) (Nat.le_refl 125)
  refine ⟨_, hreceived, rfl, fun h => ?_⟩
  have hblank : Streamed guest blank := ⟨rfl, rfl, ItemStore.wired_empty⟩
  have hshallow := isShallow_of_loadSnapshot (hblank.take hreceived 1).wired h
  have hdepth : (nested "a" 125).depth ≤ 125 := hshallow "a" (nested "a" 125) rfl
  rw [depth_nested] at hdepth
  exact absurd hdepth (by decide)

end FlagData

end LiveFlags
