import LiveFlags.Proofs.Item
import LiveFlags.Proofs.ItemStore

/-!
# Snapshots on the wire

A snapshot is written as one object with an item for each key, so its items stand one level deeper
than an item on its own: their values and reasons may hold 125 containers inside one another, not
126. A snapshot of readable items reads back as it was, and every snapshot that was read has
readable items.

Main statements: `decode_encode`, `eq_of_decode_encode` and `readable_of_decode`.
-/

namespace LiveFlags.Snapshot

open Json

/-- Each item is readable. -/
def Readable (n : Nat) (s : Snapshot) : Prop :=
  ∀ (key : String) (item : Item), s.items[key]? = some item → item.Readable n

/-- No number in an item is a floating-point one. -/
def IsWhole (s : Snapshot) : Prop :=
  ∀ (key : String) (item : Item), s.items[key]? = some item → item.isWhole = true

theorem Readable.of_depth_le {m n : Nat} {s : Snapshot} (h : s.Readable m)
    (hdepth : ∀ (key : String) (item : Item), s.items[key]? = some item → item.depth ≤ n) :
    s.Readable n :=
  fun key item hitem => (h key item hitem).of_depth_le (hdepth key item hitem)

theorem Readable.rekeyed {n : Nat} {s : Snapshot} (h : s.Readable n) : s.rekeyed.Readable n := by
  intro key item hitem
  rw [getElem?_rekeyed, Option.map_eq_some_iff] at hitem
  obtain ⟨original, horiginal, rfl⟩ := hitem
  exact { h key original horiginal with }

/-- A snapshot that is keyed well stays as it is. -/
theorem WellKeyed.rekeyed_eq {s : Snapshot} (h : s.WellKeyed) : s.rekeyed = s := by
  refine congrArg Snapshot.mk (Std.ExtTreeMap.ext_getElem? fun key => ?_)
  refine (getElem?_rekeyed s key).trans ?_
  cases hitem : s.items[key]? with
  | none => rfl
  | some item =>
    have hkey : item.key = key := h key item hitem
    subst hkey
    rfl

/-- A snapshot of whole numbers reads back if its items are readable two levels deeper. -/
theorem Readable.reads {n : Nat} {s : Snapshot} (h : s.Readable n) (hwhole : s.IsWhole) :
    Reads (Snapshot.read (n + 2)) s.toJson s := by
  have hitems := reads_readMap Item.read Item.toJson fun key item hitem =>
    (h key item hitem).reads (hwhole key item hitem)
  exact hitems.map Snapshot.mk

/-- **A snapshot of whole numbers reads back** if its items fit into it. -/
theorem decode_encode {s : Snapshot} (h : s.Readable 125) (hwhole : s.IsWhole) :
    decode s.encode = .ok s :=
  decode_text (h.reads hwhole)

/-- A snapshot is read alike with one more level. -/
theorem extends_read : Widens Snapshot.read := by
  intro depth
  refine Extends.map (extends_readMap (fun key items depth => ?_) ∅ depth) Snapshot.mk
  exact (Item.extends_read depth).map fun item => items.insert key item

/-- A snapshot that is one level too deep is refused, or read as it was: never as another one. -/
theorem eq_of_decode_encode {s read : Snapshot} (h : s.Readable 126) (hwhole : s.IsWhole)
    (hread : decode s.encode = .ok read) : read = s := by
  -- With one more level than there is, the text is read as what was written.
  have hdeeper : Json.decode (Snapshot.read (deepest + 1)) s.encode = .ok read :=
    (extends_read deepest).decode hread
  have hwritten : Json.decode (Snapshot.read (deepest + 1)) s.encode = .ok s :=
    decode_text (h.reads hwhole)
  exact Except.ok.inj (hdeeper.symm.trans hwritten)

theorem yields_read (n : Nat) : Yields (Snapshot.read (n + 2)) (Readable n) := by
  have hitems : Yields (readMap (n + 2)
      (fun depth key items => return items.insert key (← Item.read depth)) ∅)
      fun items => Readable n ⟨items⟩ := by
    refine yields_readMap (fun key items hitems => ?_) ?_
    · refine (Item.yields_read n).bind fun item hitem => yields_pure fun k i hi => ?_
      rw [Std.ExtTreeMap.getElem?_insert] at hi
      split at hi
      · cases hi
        exact hitem
      · exact hitems k i hi
    · intro key item h
      rw [Std.ExtTreeMap.getElem?_empty] at h
      cases h
  exact hitems.bind fun items h => yields_pure h

/-- **The items of a snapshot that was read are readable.** -/
theorem readable_of_decode {text : String} {s : Snapshot} (h : decode text = .ok s) :
    s.Readable 125 :=
  yields_decode (yields_read 125) h

end LiveFlags.Snapshot
