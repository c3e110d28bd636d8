import LiveFlags.Proofs.FlagData.Steps
import LiveFlags.Proofs.Snapshot
import LiveFlags.Source.Streaming

/-!
# Events that were parsed

Whatever text an event carries, the items that it brings are readable with 126 containers inside
one another: an item of a `patch` stands alone in its text, those of a `put` stand one level deeper,
and the tombstone of a `delete` holds no value. For that alone they need not fit into a snapshot,
where 125 are allowed.

Main statement: `readable_of_parse`.
-/

namespace LiveFlags

namespace StreamEvent

/-- What an event means for the flags of an identity. A deletion leaves a tombstone. -/
def dataStep? (identity : Identity) : StreamEvent → Option DataStep
  | .put snapshot => some (.snapshot identity snapshot)
  | .patch item => some (.item identity item)
  | .delete key version => some (.item identity (.tombstone key version))
  | .ping => none

end StreamEvent

namespace DataStep

/-- The snapshot or item is readable. -/
def Readable (n : Nat) : DataStep → Prop
  | .switch _ => True
  | .snapshot _ s => s.WellKeyed ∧ s.Readable n
  | .item _ i => i.Readable n

/-- No number in the snapshot or item is a floating-point one. -/
def IsWhole : DataStep → Prop
  | .switch _ => True
  | .snapshot _ s => s.IsWhole
  | .item _ i => i.isWhole = true

end DataStep

namespace StreamEvent

open Json

theorem yields_readDeletion :
    Yields readDeletion fun event =>
      ∃ key version, event = .delete key version ∧ version < 2 ^ 64 := by
  have hrecord : Yields (deletion.read deepest {}) fun d => d.version.getD 0 < 2 ^ 64 := by
    refine Record.yields (by decide) fun field hfield draft hdraft => ?_
    simp only [deletion, List.mem_cons, List.not_mem_nil, or_false] at hfield
    rcases hfield with rfl | rfl
    · exact yields_bind fun _ => yields_pure hdraft
    · exact (yields_readUnsigned 64).bind fun v hv => yields_pure hv
  exact hrecord.bind fun d hd => yields_pure ⟨_, _, rfl, hd⟩

/-- What comes after a text that had to be decoded. -/
theorem exists_of_mapError_bind {ε ε' α β : Type} {x : Except ε α} {f : ε → ε'}
    {g : α → Except ε' β} {b : β} (h : x.mapError f >>= g = .ok b) :
    ∃ a, x = .ok a ∧ g a = .ok b := by
  cases x with
  | error e => cases h
  | ok a => exact ⟨a, rfl, h⟩

/-- What a text was read as, for each kind of event. -/
theorem parse_cases {name data : String} {event : StreamEvent}
    (h : parse name data = .ok (some event)) :
    (∃ snapshot, Snapshot.decode data = .ok snapshot ∧ event = .put snapshot.rekeyed) ∨
    (∃ item, Item.decode data = .ok item ∧ event = .patch item) ∨
    Json.decode readDeletion data = .ok event ∨ event = .ping := by
  unfold parse at h
  split at h
  · obtain ⟨snapshot, hdecode, h⟩ := exists_of_mapError_bind h
    cases h
    exact .inl ⟨snapshot, hdecode, rfl⟩
  · obtain ⟨item, hdecode, h⟩ := exists_of_mapError_bind h
    -- An item without a key makes no event.
    unfold ofPatch at h
    split at h
    · cases h
    · cases h
      exact .inr (.inl ⟨item, hdecode, rfl⟩)
  · obtain ⟨deletion, hdecode, h⟩ := exists_of_mapError_bind h
    cases h
    exact .inr (.inr (.inl hdecode))
  · cases h
    exact .inr (.inr (.inr rfl))
  · cases h

/-- A `patch` is parsed if its text holds an item that names its key. -/
theorem parse_patch {data : String} {item : Item} (h : Item.decode data = .ok item)
    (hkey : item.key ≠ "") : parse "patch" data = .ok (some (.patch item)) := by
  have hparse : parse "patch" data = ((Item.decode data).mapError (unreadable "patch")).bind
      fun item => (ofPatch item).bind fun event => .ok (some event) :=
    rfl
  rw [hparse, h]
  change (ofPatch item).bind _ = _
  rw [ofPatch, if_neg hkey]
  rfl

/-- **What a parsed event brings is readable.** -/
theorem readable_of_parse {name data : String} {event : StreamEvent} {identity : Identity}
    {step : DataStep} (hparse : parse name data = .ok (some event))
    (hstep : event.dataStep? identity = some step) : step.Readable 126 := by
  rcases parse_cases hparse with ⟨s, hs, rfl⟩ | ⟨item, hitem, rfl⟩ | hdeletion | rfl
  · cases hstep
    have hreadable := (Snapshot.readable_of_decode hs).rekeyed
    refine ⟨Snapshot.wellKeyed_rekeyed s, hreadable.of_depth_le fun key item hitem => ?_⟩
    exact Nat.le_trans (hreadable key item hitem).depth_le (by decide)
  · cases hstep
    exact yields_decode (Item.yields_read 126) hitem
  · obtain ⟨key, version, rfl, hversion⟩ := yields_decode yields_readDeletion hdeletion
    cases hstep
    exact Item.readable_tombstone 126 key hversion
  · cases hstep

end StreamEvent

end LiveFlags
