import LiveFlags.Item
import LiveFlags.Proofs.Json.Depth
import LiveFlags.Proofs.Json.Record

/-!
# Items on the wire

An item that was read has a version of 64 bits and a variation of 32 bits, values that are readable
inside it, a reason that is not `null`, and a time that is a number of milliseconds. `Readable` says
this of an item, whatever way it came. The defaults for fields that are left out are readable as
well, which is why the property can be carried through a record field by field (`yields_read`).

Such an item is written so that it reads back, as long as its numbers are whole and the containers
in its value and its reason nest no deeper than the place allows where it is read. The object around
the fields takes up one level itself.

Main statements: `yields_read` and `Readable.reads`.
-/

namespace LiveFlags

theorem Instant.toMillis_of_ofMillis? {ms : Int} {t : Instant} (h : Instant.ofMillis? ms = some t) :
    t.toMillis = ms := by
  simp only [ofMillis?, Option.ite_none_right_eq_some, Option.some.injEq] at h
  obtain ⟨-, rfl⟩ := h
  simp only [toMillis]
  have hmod : 0 ≤ ms.fmod 1000 := Int.fmod_nonneg_of_pos ms (by decide)
  have hdiv := Int.mul_fdiv_add_fmod ms 1000
  omega

namespace Item

open Json

/-- An item as it is read, with `n` more containers allowed inside its fields. -/
structure Readable (n : Nat) (item : Item) : Prop where
  version : item.version < 2 ^ 64
  value : Json.Readable n item.value
  variation : ∀ v ∈ item.variation, v < 2 ^ 32
  reason : ∀ r ∈ item.reason, r ≠ .null ∧ Json.Readable n r
  debugUntil : ∀ t ∈ item.debugUntil,
    ∃ ms, -2 ^ 63 ≤ ms ∧ ms < 2 ^ 64 ∧ Instant.ofMillis? ms = some t

/-- Whether no number in the item is a floating-point one. -/
def isWhole (item : Item) : Bool :=
  item.value.isWhole && item.reason.all Json.isWhole

/-- How many containers stand inside one another in the value and the reason. -/
def depth (item : Item) : Nat :=
  max item.value.depth ((item.reason.map Json.depth).getD 0)

theorem depth_le_iff {item : Item} {n : Nat} :
    item.depth ≤ n ↔ item.value.depth ≤ n ∧ ∀ r ∈ item.reason, r.depth ≤ n := by
  rw [depth, Nat.max_le]
  cases item.reason <;> simp

theorem Readable.depth_le {n : Nat} {item : Item} (h : Readable n item) : item.depth ≤ n :=
  depth_le_iff.2 ⟨h.value.depth_le, fun r hr => (h.reason r hr).2.depth_le⟩

/-- Only the depth of an item matters for how many containers have to be allowed. -/
theorem Readable.of_depth_le {m n : Nat} {item : Item} (h : Readable m item)
    (hdepth : item.depth ≤ n) : Readable n item := by
  obtain ⟨hvalue, hreason⟩ := depth_le_iff.1 hdepth
  exact { h with
    value := h.value.of_depth_le hvalue
    reason := fun r hr => ⟨(h.reason r hr).1, (h.reason r hr).2.of_depth_le (hreason r hr)⟩ }

/-- A tombstone holds nothing. -/
theorem readable_tombstone (n : Nat) (key : String) {version : Nat} (h : version < 2 ^ 64) :
    Readable n (tombstone key version) :=
  ⟨h, .null, nofun, nofun, nofun⟩

/-! ### Items that were read -/

/-- **Items that were read are readable**, whether they came as an object or as a list. -/
theorem yields_read (n : Nat) : Yields (Item.read (n + 1)) (Readable n) := by
  have hrecord : Yields (record.read (n + 1) {}) fun d => Readable n d.finish := by
    refine Record.yields ?_ fun field hfield draft hdraft => ?_
    · exact ⟨by decide, .null, nofun, nofun, nofun⟩
    · simp only [record, List.mem_cons, List.not_mem_nil, or_false] at hfield
      rcases hfield with rfl | rfl | rfl | rfl | rfl | rfl | rfl | rfl | rfl
      · exact yields_bind fun _ => yields_pure { hdraft with }
      · exact (yields_readUnsigned 64).bind fun v hv => yields_pure { hdraft with version := hv }
      · exact (yields_readValue n).bind fun v hv => yields_pure { hdraft with value := hv }
      · exact (yields_readOptional (yields_readUnsigned 32)).bind fun v hv =>
          yields_pure { hdraft with variation := hv }
      · exact (yields_readOptional_readValue n).bind fun r hr =>
          yields_pure { hdraft with reason := hr }
      · exact yields_bind fun _ => yields_pure { hdraft with }
      · exact yields_bind fun _ => yields_pure { hdraft with }
      · exact (yields_readOptional yields_readTimestamp).bind fun t ht =>
          yields_pure { hdraft with debugUntil := ht }
      · exact yields_bind fun _ => yields_pure { hdraft with }
  exact hrecord.bind fun draft hdraft => yields_pure hdraft

/-- An item is read alike with one more level. -/
theorem extends_read : Widens Item.read := by
  have hrecord : Widens fun depth => record.read depth ({} : Draft) := by
    refine Record.extends_read (fun field hfield draft depth => ?_) _
    simp only [record, List.mem_cons, List.not_mem_nil, or_false] at hfield
    -- Only the value and the reason can hold containers.
    rcases hfield with rfl | rfl | rfl | rfl | rfl | rfl | rfl | rfl | rfl
    case inr.inr.inl => exact (extends_readValue depth).map _
    case inr.inr.inr.inr.inl => exact (extends_readValue depth).readOptional.map _
    all_goals exact .refl _
  exact fun depth => (hrecord depth).map Draft.finish

/-! ### Items that were written -/

/-- The draft of an item that is read from its wire form. -/
def written (item : Item) : Draft where
  key := some item.key
  version := some item.version
  value := some item.value
  variation := item.variation.map some
  reason := item.reason.map some
  trackEvents := if item.trackEvents then some true else none
  trackReason := if item.trackReason then some true else none
  debugUntil := item.debugUntil.map some
  deleted := if item.deleted then some true else none

theorem finish_written (item : Item) : (written item).finish = item := by
  obtain ⟨key, version, value, variation, reason, trackEvents, trackReason, debugUntil, deleted⟩ :=
    item
  cases variation <;> cases reason <;> cases trackEvents <;> cases trackReason <;>
    cases debugUntil <;> cases deleted <;> rfl

section Members

variable {n : Nat} {d : Draft}

theorem readsMembers_variation (hd : d.variation = none) {o : Option Nat}
    (ho : ∀ v ∈ o, v < 2 ^ 32) :
    ReadsMembers (record.readMember n) (o.map fun v : Nat => ("variation", Json.int v)).toList d
      { d with variation := o.map some } := by
  refine .option (fun hnone => by rw [hnone, Option.map_none, ← hd]) fun v hv => ?_
  have hbits := ho v hv
  have hread := (reads_readUnsigned hbits (by omega)).optional rfl nofun
  rw [hv]
  exact Record.reads_readMember rfl (by simp [hd]) (hread.map _)

theorem readsMembers_reason (hd : d.reason = none) {o : Option Json}
    (ho : ∀ r ∈ o, r ≠ .null ∧ Json.Readable n r) (hwhole : o.all Json.isWhole = true) :
    ReadsMembers (record.readMember n) (o.map fun r => ("reason", r)).toList d
      { d with reason := o.map some } := by
  refine .option (fun hnone => by rw [hnone, Option.map_none, ← hd]) fun r hr => ?_
  rw [hr] at hwhole
  have hread := ((ho r hr).2.reads hwhole).optional hwhole (ho r hr).1
  rw [hr]
  exact Record.reads_readMember rfl (by simp [hd]) (hread.map _)

/-- The three marks of an item differ in their name and in what they `set`. -/
theorem readsMembers_mark (set : Draft → Option Bool → Draft) {name : String}
    {field : Json.Field Draft}
    (hfind : record.fields.find? (·.name = name) = some field) (hnone : set d none = d)
    (hset : field.isSet d = false) (hread : field.read n d = do return set d (some (← readBool)))
    (b : Bool) :
    ReadsMembers (record.readMember n) (if b then [(name, .bool true)] else []) d
      (set d (if b then some true else none)) := by
  refine .mark (fun hoff => by rw [hoff, if_neg (by decide), hnone]) fun hon => ?_
  rw [if_pos hon]
  refine Record.reads_readMember hfind hset ?_
  rw [hread]
  exact (reads_readBool true).map _

theorem readsMembers_debugUntil (hd : d.debugUntil = none) {o : Option Instant}
    (ho : ∀ t ∈ o, ∃ ms, -2 ^ 63 ≤ ms ∧ ms < 2 ^ 64 ∧ Instant.ofMillis? ms = some t) :
    ReadsMembers (record.readMember n)
      (o.map fun t => ("debugUntil", Json.int t.toMillis)).toList d
      { d with debugUntil := o.map some } := by
  refine .option (fun hnone => by rw [hnone, Option.map_none, ← hd]) fun t ht => ?_
  obtain ⟨ms, hlow, hhigh, hms⟩ := ho t ht
  have hread := (reads_readTimestamp hlow hhigh hms).optional rfl nofun
  rw [ht, Instant.toMillis_of_ofMillis? hms]
  exact Record.reads_readMember rfl (by simp [hd]) (hread.map _)

end Members

theorem readsMembers_written {n : Nat} {item : Item} (h : Readable n item)
    (hwhole : item.isWhole = true) :
    ReadsMembers (record.readMember n) item.toJson.members {} (written item) := by
  simp only [isWhole, Bool.and_eq_true] at hwhole
  have hnamed : ReadsMembers (record.readMember n)
      [("key", .str item.key), ("version", .int item.version), ("value", item.value)] {}
      { key := some item.key, version := some item.version, value := some item.value } :=
    .cons (Record.reads_readMember rfl rfl ((reads_readText _ _).map _)) <|
    .cons (Record.reads_readMember rfl rfl ((reads_readUnsigned h.version h.version).map _)) <|
    .cons (Record.reads_readMember rfl rfl ((h.value.reads hwhole.1).map _)) (.nil _)
  exact (((((hnamed.append (readsMembers_variation rfl h.variation)).append
    (readsMembers_reason rfl h.reason hwhole.2)).append
    (readsMembers_mark (fun d b => { d with trackEvents := b }) rfl rfl rfl rfl _)).append
    (readsMembers_mark (fun d b => { d with trackReason := b }) rfl rfl rfl rfl _)).append
    (readsMembers_debugUntil rfl h.debugUntil)).append
    (readsMembers_mark (fun d b => { d with deleted := b }) rfl rfl rfl rfl _)

/-- **An item of whole numbers reads back** if its containers nest no deeper than is allowed. -/
theorem Readable.reads {n : Nat} {item : Item} (h : Readable n item)
    (hwhole : item.isWhole = true) : Reads (Item.read (n + 1)) item.toJson item := by
  have hread := (Record.reads (readsMembers_written h hwhole) rfl).map Draft.finish
  rw [finish_written] at hread
  exact hread

end Item

end LiveFlags
