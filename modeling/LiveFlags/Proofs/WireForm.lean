import LiveFlags.Identity
import LiveFlags.Proofs.Event

/-!
# What comes over the wire as it was

Snapshots, items and identities are written as JSON texts and read from them again. Six members of
an item and two of an identity are left out where they say nothing, and are filled in when they are
missing. All comes back as it was if its values hold no floating-point numbers and no more than 125
containers inside one another: there are 127 levels, of which an item of a snapshot takes up two,
and so do the attributes of an identity.

Main statement: `readsBack_of_fits`.
-/

namespace LiveFlags

open Json

/-- A value of whole numbers that is not too deep for a snapshot. -/
def Json.Fits (value : Json) : Prop :=
  Json.Readable 125 value ∧ value.isWhole = true

/-- The years of the calendar are over long before milliseconds run out of 64 bits. -/
theorem Instant.bounds_of_ofMillis? {ms : Int} {t : Instant}
    (h : Instant.ofMillis? ms = some t) : -2 ^ 63 ≤ ms ∧ ms < 2 ^ 64 := by
  simp only [ofMillis?, Option.ite_none_right_eq_some, isSupported, Bool.and_eq_true,
    decide_eq_true_eq] at h
  obtain ⟨⟨hfirst, hlast⟩, -⟩ := h
  have hfirstSecond : Calendar.firstSecond = -8334601228800 := by decide
  have hlastSecond : Calendar.lastSecond = 8210266876799 := by decide
  have hmod : 0 ≤ ms.fmod 1000 := Int.fmod_nonneg_of_pos ms (by decide)
  have hlt : ms.fmod 1000 < 1000 := Int.fmod_lt_of_pos ms (by decide)
  have hdiv := Int.mul_fdiv_add_fmod ms 1000
  omega

/-! ### Items and snapshots -/

/-- An item that is kept on the wire: its value and its reason fit, and it has no reason rather than
`null`. Numbers have the bits of their fields, and a time is one of milliseconds. -/
structure Item.Fits (item : Item) : Prop where
  version : item.version < 2 ^ 64
  variation : ∀ v ∈ item.variation, v < 2 ^ 32
  value : item.value.Fits
  reason : ∀ r ∈ item.reason, r ≠ .null ∧ r.Fits
  debugUntil : ∀ t ∈ item.debugUntil, ∃ ms, Instant.ofMillis? ms = some t

namespace Item.Fits

variable {item : Item}

/-- A flag that was removed has nothing but its version. -/
theorem tombstone {key : String} {version : Nat} (h : version < 2 ^ 64) :
    (Item.tombstone key version).Fits where
  version := h
  variation := nofun
  value := ⟨.null, rfl⟩
  reason := nofun
  debugUntil := nofun

theorem readable (h : item.Fits) : item.Readable 125 where
  version := h.version
  value := h.value.1
  variation := h.variation
  reason r hr := ⟨(h.reason r hr).1, (h.reason r hr).2.1⟩
  debugUntil t ht := by
    obtain ⟨ms, hms⟩ := h.debugUntil t ht
    obtain ⟨hlow, hhigh⟩ := Instant.bounds_of_ofMillis? hms
    exact ⟨ms, hlow, hhigh, hms⟩

theorem isWhole (h : item.Fits) : item.isWhole = true := by
  rw [Item.isWhole, h.value.2, Bool.true_and]
  cases hreason : item.reason with
  | none => rfl
  | some r => exact (h.reason r hreason).2.2

/-- An item alone in its text has one level more than it needs. -/
theorem decode (h : item.Fits) : Item.decode item.toJson.text = .ok item := by
  have hreadable : item.Readable 126 :=
    h.readable.of_depth_le (Nat.le_trans h.readable.depth_le (by decide))
  exact decode_text (hreadable.reads h.isWhole)

end Item.Fits

/-- All items are kept on the wire. -/
def Snapshot.Fits (s : Snapshot) : Prop :=
  ∀ key item, s.get? key = some item → item.Fits

/-- The snapshot and its items come over the wire as they were. -/
structure Snapshot.ReadsBack (s : Snapshot) : Prop where
  decoded : (decode s.encode).map rekeyed = .ok s
  put : StreamEvent.parse "put" s.encode = .ok (some (.put s))
  patch : ∀ key item, s.get? key = some item → item.key ≠ "" →
    StreamEvent.parse "patch" item.toJson.text = .ok (some (.patch item))

theorem Snapshot.Fits.readsBack {s : Snapshot} (h : s.Fits) (hkeys : s.WellKeyed) :
    s.ReadsBack := by
  have hdecode : decode s.encode = .ok s :=
    decode_encode (fun key item hitem => (h key item hitem).readable)
      fun key item hitem => (h key item hitem).isWhole
  constructor
  case decoded =>
    rw [hdecode]
    exact congrArg Except.ok hkeys.rekeyed_eq
  case put =>
    have hparse : StreamEvent.parse "put" s.encode =
        ((decode s.encode).mapError (StreamEvent.unreadable "put")).bind
          fun read => .ok (some (.put read.rekeyed)) := rfl
    rw [hparse, hdecode]
    exact congrArg (fun read => Except.ok (some (StreamEvent.put read))) hkeys.rekeyed_eq
  case patch =>
    intro key item hitem hkey
    exact StreamEvent.parse_patch (h key item hitem).decode hkey

/-! ### Identities -/

namespace Identity

/-- All attributes are kept on the wire. -/
def Fits (identity : Identity) : Prop :=
  ∀ (name : String) (value : Json), identity.attributes[name]? = some value → value.Fits

/-- The draft of an identity that is read from its wire form. -/
def written (identity : Identity) : Draft where
  key := some identity.key
  anonymous := if identity.anonymous then some true else none
  attributes := if identity.attributes.isEmpty then none else some identity.attributes

theorem finish_written (identity : Identity) : (written identity).finish = identity := by
  obtain ⟨key, anonymous, attributes⟩ := identity
  have hanonymous : (if anonymous then some true else none).getD false = anonymous := by
    cases anonymous <;> rfl
  have hattributes :
      (if attributes.isEmpty then none else some attributes).getD ∅ = attributes := by
    split
    · next h => exact (Std.ExtTreeMap.isEmpty_iff.1 h).symm
    · rfl
  simp only [written, Draft.finish, Option.getD_some, hanonymous, hattributes]

theorem Fits.reads_readAttributes {identity : Identity} (h : identity.Fits) :
    Reads (readAttributes 126) (.obj identity.attributes.toList) identity.attributes := by
  have hentries := reads_readMap readValue id fun name value hvalue =>
    (h name value hvalue).1.reads (h name value hvalue).2
  have hlist : (identity.attributes.toList.map fun entry => (entry.1, id entry.2)) =
      identity.attributes.toList := List.map_id _
  rw [hlist] at hentries
  exact hentries

theorem Fits.readsMembers_written {identity : Identity} (h : identity.Fits) :
    ReadsMembers (record.readMember 126) identity.toJson.members {} (written identity) := by
  have hkey : ReadsMembers (record.readMember 126) [("key", .str identity.key)] {}
      { key := some identity.key } :=
    .cons (Record.reads_readMember rfl rfl ((reads_readText _ _).map _)) (.nil _)
  have hmark : ReadsMembers (record.readMember 126)
      (if identity.anonymous then [("anonymous", .bool true)] else [])
      { key := some identity.key }
      { key := some identity.key
        anonymous := if identity.anonymous then some true else none } := by
    refine .mark (fun hoff => by rw [hoff]; rfl) fun hon => ?_
    rw [if_pos hon]
    exact Record.reads_readMember rfl rfl ((reads_readBool true).map _)
  have hattributes : ReadsMembers (record.readMember 126)
      (if identity.attributes.isEmpty then []
        else [("attributes", .obj identity.attributes.toList)])
      { key := some identity.key
        anonymous := if identity.anonymous then some true else none }
      (written identity) := by
    unfold written
    split
    · exact .nil _
    · exact .cons (Record.reads_readMember rfl rfl (h.reads_readAttributes.map _)) (.nil _)
  exact (hkey.append hmark).append hattributes

theorem Fits.decode {identity : Identity} (h : identity.Fits) :
    Identity.decode identity.toJson.text = .ok identity := by
  have hread := (Record.reads h.readsMembers_written rfl).map Draft.finish
  rw [finish_written] at hread
  exact decode_text hread

end Identity

/-- **What fits on the wire comes back as it was**: a snapshot that is keyed well, as a stored text,
as a `put` and item by item as a `patch`, and an identity. -/
theorem readsBack_of_fits {s : Snapshot} (hkeys : s.WellKeyed) (hs : s.Fits) {identity : Identity}
    (hidentity : identity.Fits) :
    s.ReadsBack ∧ Identity.decode identity.toJson.text = .ok identity :=
  ⟨hs.readsBack hkeys, hidentity.decode⟩

/-- A flag with all that a flag can have. -/
def fullItem : Item where
  key := "a"
  version := 2 ^ 64 - 1
  value := .obj [("list", .arr [.int (-1), .str "\"\n", .null]), ("on", .bool true)]
  variation := some 3
  reason := some (.arr [])
  trackEvents := true
  trackReason := true
  debugUntil := some ⟨-1, 999000000⟩

theorem fits_fullItem : fullItem.Fits := by
  have hlist : Json.Readable 124 (.arr [.int (-1), .str "\"\n", .null]) := by
    refine .arr fun value hvalue => ?_
    simp only [List.mem_cons, List.not_mem_nil, or_false] at hvalue
    rcases hvalue with rfl | rfl | rfl
    · exact .int (by decide) (by decide)
    · exact .str _
    · exact .null
  have hvalue : Json.Readable 125 fullItem.value := by
    refine .obj (by decide) fun m hm => ?_
    simp only [List.mem_cons, List.not_mem_nil, or_false] at hm
    rcases hm with rfl | rfl
    · exact hlist
    · exact .bool true
  constructor
  case version => decide
  case variation => decide
  case value => exact ⟨hvalue, rfl⟩
  case reason =>
    intro r hr
    cases hr
    exact ⟨nofun, .arr nofun, rfl⟩
  case debugUntil =>
    intro t ht
    cases ht
    exact ⟨-1, by decide⟩

/-- Such a flag beside one that was removed, and somebody anonymous with an attribute. -/
theorem readsBack_fullItem :
    let s := Snapshot.ofItems [fullItem, .tombstone "b" 2]
    let identity := ({ key := "u", anonymous := true } : Identity).withAttribute "plan" (.int 7)
    s.ReadsBack ∧ Identity.decode identity.toJson.text = .ok identity := by
  intro s identity
  have hitems : ∀ key item, s.get? key = some item → item.key = key ∧ item.Fits := by
    intro key item hitem
    simp only [s, Snapshot.get?, Snapshot.ofItems, List.foldl_cons, List.foldl_nil,
      Std.ExtTreeMap.getElem?_insert] at hitem
    split at hitem
    · next hkey =>
      cases hitem
      exact ⟨Std.LawfulEqCmp.eq_of_compare hkey, .tombstone (by decide)⟩
    · split at hitem
      · next hkey =>
        cases hitem
        exact ⟨Std.LawfulEqCmp.eq_of_compare hkey, fits_fullItem⟩
      · cases Std.ExtTreeMap.getElem?_empty.symm.trans hitem
  have hidentity : identity.Fits := by
    intro name value hvalue
    simp only [identity, Identity.withAttribute, Std.ExtTreeMap.getElem?_insert] at hvalue
    split at hvalue
    · cases hvalue
      exact ⟨.int (by decide) (by decide), rfl⟩
    · cases Std.ExtTreeMap.getElem?_empty.symm.trans hvalue
  exact readsBack_of_fits (fun key item hitem => (hitems key item hitem).1)
    (fun key item hitem => (hitems key item hitem).2) hidentity

end LiveFlags
