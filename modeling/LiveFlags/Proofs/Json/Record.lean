import LiveFlags.Json.Record
import LiveFlags.Proofs.Json.RoundTrip
import LiveFlags.Proofs.Json.Yields
import Std.Data.ExtTreeMap

/-!
# Typed values and records

What the text of a single field is read as, and what the readers of single fields can come to. A
record is written as an object. It is read back if each member finds its field, which is not set
yet, and if no field is missing in the end (`Record.reads`). A property of the draft that every
field keeps holds of the whole record, whether it came as an object or as a list
(`Record.yields`).

Main statements: `Record.reads` and `Record.yields`.
-/

namespace LiveFlags.Json

open Reader

variable {α β σ : Type} {p : α → Prop}

/-! ### Single values -/

theorem reads_readText (wanted s : String) : Reads (readText wanted) (.str s) s := by
  intro rest _
  simp only [chars, quote, List.cons_append, List.append_assoc, List.nil_append]
  exact readString_quote s rest

theorem reads_readBool (b : Bool) : Reads readBool (.bool b) b := by
  intro rest _
  cases b <;> rfl

theorem peekValue_cons {c : Char} (h : isSpace c = false) (cs : List Char) :
    peekValue (c :: cs) = .ok (c, c :: cs) := by
  rw [peekValue, bind_of_ok (peek_cons h cs)]
  rfl

/-- A whole number is read if it is accepted. -/
theorem reads_readWhole {wanted : String} {accept : Int → Option α} {i : Int} {a : α}
    (hlow : -2 ^ 63 ≤ i) (hhigh : i < 2 ^ 64) (h : accept i = some a) :
    Reads (readWhole wanted accept) (.int i) a := by
  intro rest hrest
  obtain ⟨c, cs, hcs, hnumber, hread⟩ := exists_chars_int hlow hhigh hrest
  rw [hcs, readWhole, bind_of_ok (peekValue_cons (not_isSpace_of_number hnumber) _),
    if_pos hnumber, bind_of_ok hread]
  simp only [h]
  rfl

theorem reads_readUnsigned {bits n : Nat} (hbits : n < 2 ^ bits) (h : n < 2 ^ 64) :
    Reads (readUnsigned bits) (.int n) n := by
  refine reads_readWhole (by omega) (by omega) ?_
  have hn : (n : Int) < 2 ^ bits := by exact_mod_cast hbits
  simp [hn]

theorem reads_readSigned {i : Int} (hlow : -2 ^ 63 ≤ i) (hhigh : i < 2 ^ 63) :
    Reads readSigned (.int i) i :=
  reads_readWhole hlow (by omega) (if_pos ⟨hlow, hhigh⟩)

theorem reads_readTimestamp {i : Int} {t : Instant} (hlow : -2 ^ 63 ≤ i) (hhigh : i < 2 ^ 64)
    (h : Instant.ofMillis? i = some t) : Reads readTimestamp (.int i) t := by
  intro rest hrest
  obtain ⟨c, cs, hcs, hnumber, hread⟩ := exists_chars_int hlow hhigh hrest
  rw [hcs, readTimestamp, bind_of_ok (peekValue_cons (not_isSpace_of_number hnumber) _)]
  simp only [if_pos hnumber]
  rw [bind_of_ok hread]
  simp only [h]
  rfl

/-- A value that is there is read as such. -/
theorem Reads.optional {r : Reader α} {value : Json} {a : α} (h : Reads r value a)
    (hwhole : value.isWhole = true) (hnull : value ≠ .null) :
    Reads (readOptional r) value (some a) := by
  intro rest hrest
  have hread := h rest hrest
  obtain ⟨c, cs, hcs, hbegins, hn⟩ := exists_chars_eq_cons hwhole
  rw [hcs, List.cons_append] at hread ⊢
  rw [readOptional, bind_of_ok (peek_cons hbegins.1 _)]
  generalize hd : some c = d
  split
  · exact absurd (hn (Option.some.inj hd)) hnull
  · exact bind_of_ok hread _

theorem yields_readWhole {wanted : String} {accept : Int → Option α}
    (h : ∀ i a, accept i = some a → p a) : Yields (readWhole wanted accept) p := by
  refine yields_bind fun c => ?_
  split
  · refine yields_bind fun l => ?_
    split
    · split
      · next heq => exact yields_pure (h _ _ heq)
      · exact yields_fail _
    · exact yields_fail _
  · exact yields_refuse wanted

theorem yields_readUnsigned (bits : Nat) : Yields (readUnsigned bits) (· < 2 ^ bits) := by
  refine yields_readWhole fun i a h => ?_
  simp only [Option.ite_none_right_eq_some, Option.some.injEq] at h
  obtain ⟨⟨hlow, hhigh⟩, rfl⟩ := h
  have hcast : (i.toNat : Int) < (2 ^ bits : Nat) := by
    rw [Int.toNat_of_nonneg hlow]
    exact_mod_cast hhigh
  exact_mod_cast hcast

theorem yields_readSigned : Yields readSigned fun i => -2 ^ 63 ≤ i ∧ i < 2 ^ 63 := by
  refine yields_readWhole fun i a h => ?_
  simp only [Option.ite_none_right_eq_some, Option.some.injEq] at h
  obtain ⟨hbounds, rfl⟩ := h
  exact hbounds

/-- A time that was read is that of a whole number of 64 bits. -/
theorem yields_readTimestamp :
    Yields readTimestamp fun t => ∃ i, -2 ^ 63 ≤ i ∧ i < 2 ^ 64 ∧ Instant.ofMillis? i = some t := by
  refine yields_bind fun c => ?_
  split
  · refine yields_literal.bind fun l hl => ?_
    split
    · next i =>
      split
      · next t heq => exact yields_pure ⟨i, (hl i rfl).1, (hl i rfl).2, heq⟩
      · exact yields_fail _
    · exact yields_fail _
  · exact yields_refuse _

theorem yields_readOptional {r : Reader α} (h : Yields r p) :
    Yields (readOptional r) fun a => ∀ b ∈ a, p b := by
  refine yields_bind fun next => ?_
  split
  · exact yields_bind fun _ => yields_pure nofun
  · exact h.bind fun a ha => yields_pure (by simpa using ha)

/-- Only a text that begins with an `n` is read as `null`. -/
theorem ne_null_of_readValue {n : Nat} {cs rest : List Char} {value : Json}
    (h : readValue n cs = .ok (value, rest)) (hn : (cs.dropWhile isSpace).head? ≠ some 'n') :
    value ≠ .null := by
  -- Every branch but that of the `n` ends in a value of another constructor.
  have hne {β : Type} {r : Reader β} {f : β → Json} {cs : List Char} (hf : ∀ b, f b ≠ .null)
      (h : (r >>= fun b => pure (f b)) cs = .ok (value, rest)) : value ≠ .null := by
    obtain ⟨b, _, -, h⟩ := bind_eq_ok_iff.1 h
    cases h
    exact hf b
  unfold readValue at h
  rw [bind_of_ok (peek_apply cs)] at h
  generalize (cs.dropWhile isSpace).head? = d at h hn
  split at h
  · cases h
  · contradiction
  · exact hne (fun _ => by simp) h
  · exact hne (fun _ => by simp) h
  · obtain ⟨_, _, -, h⟩ := bind_eq_ok_iff.1 h
    exact hne (fun _ => by simp) h
  · split at h
    · cases h
    · exact hne (fun _ => by simp) h
  · split at h
    · cases h
    · exact hne (fun _ => by simp) h
  · split at h
    · exact hne (fun l => by cases l <;> simp [Literal.toJson]) h
    · cases h

/-- `null` is read as no value. -/
theorem yields_readOptional_readValue (n : Nat) :
    Yields (readOptional (readValue n)) fun a => ∀ value ∈ a, value ≠ .null ∧ Readable n value := by
  intro cs a rest h value hvalue
  refine ⟨?_, yields_readOptional (yields_readValue n) h value hvalue⟩
  rw [readOptional, bind_of_ok (peek_apply cs)] at h
  generalize hd : (cs.dropWhile isSpace).head? = d at h
  split at h
  · obtain ⟨_, _, -, hnone⟩ := bind_eq_ok_iff.1 h
    cases hnone
    cases hvalue
  · next hn =>
    obtain ⟨read, mid, hread, hsome⟩ := bind_eq_ok_iff.1 h
    cases hsome
    cases hvalue
    refine ne_null_of_readValue hread ?_
    rw [dropWhile_isSpace_idem, hd]
    exact hn

/-! ### Sequences and maps -/

theorem Reads.sequence {item : Nat → Reader α} {depth : Nat} {text : α → Json} {as : List α}
    (hwhole : ∀ a ∈ as, (text a).isWhole = true) (h : ∀ a ∈ as, Reads (item depth) (text a) a) :
    Reads (readSequence (depth + 1) item) (.arr (as.map text)) as := by
  intro rest hrest
  have hlist := Reads.list hwhole h rest hrest
  obtain ⟨cs, hcs⟩ := exists_chars_arr (as.map text)
  rw [hcs, List.cons_append] at hlist ⊢
  rw [readSequence, bind_of_ok (peekValue_cons (by decide) _)]
  exact hlist

theorem yields_readSequence {item : Nat → Reader α} {depth : Nat} (h : Yields (item depth) p) :
    Yields (readSequence (depth + 1) item) fun as => ∀ a ∈ as, p a := by
  refine yields_bind fun c => ?_
  split
  · exact yields_readList h
  · exact yields_refuse _

theorem Reads.entries {member : Nat → String → σ → Reader σ} {depth : Nat}
    {members : List (String × Json)} {start last : σ}
    (h : ReadsMembers (member depth) members start last) :
    Reads (readMap (depth + 1) member start) (.obj members) last := by
  intro rest hrest
  have hobject := Reads.object h rest hrest
  rw [chars_obj, List.cons_append] at hobject ⊢
  rw [readMap, bind_of_ok (peekValue_cons (by decide) _)]
  exact hobject

/-- The entries are the last ones that were put under each name, in any order of the names. -/
theorem foldl_insert_toList (all : Std.ExtTreeMap String β) :
    all.toList.foldl (fun m entry => m.insert entry.1 entry.2) ∅ = all := by
  rw [← Std.ExtTreeMap.ofList_eq_foldl]
  refine Std.ExtTreeMap.ext_getElem? fun key => ?_
  cases h : all[key]? with
  | none =>
    refine Std.ExtTreeMap.getElem?_ofList_of_contains_eq_false ?_
    rw [List.contains_eq_mem, decide_eq_false_iff_not, List.mem_map]
    rintro ⟨⟨k, value⟩, hmem, rfl⟩
    rw [Std.ExtTreeMap.mem_toList_iff_getElem?_eq_some, h] at hmem
    cases hmem
  | some value =>
    exact Std.ExtTreeMap.getElem?_ofList_of_mem Std.ReflCmp.compare_self
      Std.ExtTreeMap.distinct_keys_toList (Std.ExtTreeMap.mem_toList_iff_getElem?_eq_some.2 h)

theorem readsMembers_entries (reader : Reader β) (text : β → Json) {entries : List (String × β)}
    (h : ∀ entry ∈ entries, Reads reader (text entry.2) entry.2) (all : Std.ExtTreeMap String β) :
    ReadsMembers (fun name all => return all.insert name (← reader))
      (entries.map fun entry => (entry.1, text entry.2)) all
      (entries.foldl (fun m entry => m.insert entry.1 entry.2) all) := by
  induction entries generalizing all with
  | nil => exact .nil all
  | cons entry entries ih =>
    have hread := h entry List.mem_cons_self
    refine .cons (hread.map fun value => all.insert entry.1 value) ?_
    exact ih (fun e he => h e (List.mem_cons_of_mem _ he)) _

/-- **A map of entries is read from its object** if each entry is read. -/
theorem reads_readMap (reader : Nat → Reader β) (text : β → Json) {depth : Nat}
    {all : Std.ExtTreeMap String β}
    (h : ∀ (name : String) (value : β), all[name]? = some value →
      Reads (reader depth) (text value) value) :
    Reads (readMap (depth + 1) (fun depth name all => return all.insert name (← reader depth)) ∅)
      (.obj (all.toList.map fun entry => (entry.1, text entry.2))) all := by
  have hentries := readsMembers_entries (reader depth) text
    (fun entry he => h _ _ (Std.ExtTreeMap.mem_toList_iff_getElem?_eq_some.1 he)) ∅
  rw [foldl_insert_toList] at hentries
  exact Reads.entries hentries

theorem yields_readMap {member : Nat → String → σ → Reader σ} {depth : Nat} {inv : σ → Prop}
    (h : ∀ name acc, inv acc → Yields (member depth name acc) inv) {start : σ}
    (hstart : inv start) : Yields (readMap (depth + 1) member start) inv := by
  refine yields_bind fun c => ?_
  split
  · exact yields_readObject h hstart
  · exact yields_refuse _

/-! ### Records -/

namespace Record

variable {record : Record σ} {depth : Nat}

theorem reads_readMember {field : Field σ} {name : String} {draft next : σ} {value : Json}
    (hfind : record.fields.find? (·.name = name) = some field) (hset : field.isSet draft = false)
    (h : Reads (field.read depth draft) value next) :
    Reads (record.readMember depth name draft) value next := by
  unfold readMember
  simpa [hfind, hset] using h

/-- **A record is read from its object** if each member is read and none is missing. -/
theorem reads {members : List (String × Json)} {empty last : σ}
    (h : ReadsMembers (record.readMember depth) members empty last)
    (hmissing : record.missing? last = none) :
    Reads (record.read (depth + 1) empty) (.obj members) last := by
  intro rest _
  have hmembers := readMembers_membersText h rest
  rw [chars_obj, List.cons_append, read, bind_of_ok (peekValue_cons (by decide) _)]
  change (advance >>= fun _ => itemsLeft >>= fun fuel => _ : Reader σ) _ = _
  rw [bind_of_ok (advance_cons _ _), bind_of_ok (itemsLeft_apply _), bind_of_ok hmembers]
  simp only [hmissing]
  exact bind_of_ok (closeObject_cons rest) _

variable {inv : σ → Prop}

theorem yields_readMember
    (h : ∀ field ∈ record.fields, ∀ draft, inv draft → Yields (field.read depth draft) inv)
    (name : String) {draft : σ} (hdraft : inv draft) :
    Yields (record.readMember depth name draft) inv := by
  unfold readMember
  split
  · next field hfind =>
    split
    · exact yields_fail _
    · exact h field (List.mem_of_find?_eq_some hfind) draft hdraft
  · exact yields_bind fun _ => yields_pure hdraft

theorem yields_readFields {fields : List (Field σ)}
    (h : ∀ field ∈ fields, ∀ draft, inv draft → Yields (field.read depth draft) inv)
    (n : Nat) {draft : σ} (hdraft : inv draft) :
    Yields (record.readFields depth n fields draft) inv := by
  induction fields generalizing n draft with
  | nil => exact yields_pure hdraft
  | cons field fields ih =>
    have hrest := ih fun f hf => h f (List.mem_cons_of_mem _ hf)
    refine yields_bind fun more => ?_
    split
    · exact (h field (by simp) draft hdraft).bind fun next hnext => hrest (n + 1) hnext
    · split
      · exact hrest (n + 1) hdraft
      · exact yields_fail _

/-- **What every field keeps holds of the whole record**, read from an object or from a list. -/
theorem yields {empty : σ} (hempty : inv empty)
    (h : ∀ field ∈ record.fields, ∀ draft, inv draft → Yields (field.read depth draft) inv) :
    Yields (record.read (depth + 1) empty) inv := by
  refine yields_bind fun c => ?_
  split
  · exact yields_bind fun _ => (yields_readFields h 0 hempty).bind fun draft hdraft =>
      yields_bind fun _ => yields_pure hdraft
  · refine yields_bind fun _ => yields_bind fun fuel => ?_
    have hmembers := yields_readMembers (fun name _ hacc => yields_readMember h name hacc) fuel true
      hempty
    refine hmembers.bind fun draft hdraft => ?_
    split
    · exact yields_fail _
    · exact yields_bind fun _ => yields_pure hdraft
  · exact yields_refuse _

end Record

end LiveFlags.Json
