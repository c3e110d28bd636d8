import LiveFlags.Proofs.Text.Utf8
import LiveFlags.Storage.FileName

/-!
# Different keys have different files

The name of a file can be read back (`decode_encode`): a plus sign is a blank, and then all percent
triples are bytes. So two texts never share a name, and since the names of files for different uses
end in different characters, neither do the file of a key, a temporary file and the lock.
-/

namespace LiveFlags

namespace Percent

theorem value?_digit : ∀ {n : Nat}, n < 16 → value? (digit n) = some n := by
  decide

/-- A byte that was written as a triple is read back. -/
theorem decode_encodeByte (b : UInt8) (rest : List Char) :
    decode (encodeByte b ++ rest) = b :: decode rest := by
  have hbound : b.toNat < 256 := b.toNat_lt
  have hhigh : value? (digit (b.toNat / 16)) = some (b.toNat / 16) := value?_digit (by omega)
  have hlow : value? (digit (b.toNat % 16)) = some (b.toNat % 16) :=
    value?_digit (Nat.mod_lt _ (by decide))
  have hvalue : UInt8.ofNat (16 * (b.toNat / 16) + b.toNat % 16) = b := by
    rw [Nat.div_add_mod, UInt8.ofNat_toNat]
  simp only [encodeByte, List.cons_append, List.nil_append, decode, hhigh, hlow, hvalue]

/-- Decoding gives the bytes back that were encoded. -/
theorem decode_encodeBytes (bytes : List UInt8) (rest : List Char) :
    decode (bytes.flatMap encodeByte ++ rest) = bytes ++ decode rest := by
  induction bytes with
  | nil => rfl
  | cons b bytes ih =>
    rw [List.flatMap_cons, List.append_assoc, decode_encodeByte, ih, List.cons_append]

theorem decode_cons {c : Char} (h : c ≠ '%') (rest : List Char) :
    decode (c :: rest) = Utf8.encodeChar c ++ decode rest := by
  rw [decode]
  rintro a b rest ⟨⟩
  exact absurd rfl h

end Percent

namespace FileName

/-! ### Reading a name back -/

/-- What a character of a name stands for before triples are read: a plus sign is a blank. -/
def unplus (c : Char) : Char :=
  if c = '+' then ' ' else c

/-- The bytes of the text that has a name. -/
def decode (name : String) : List UInt8 :=
  Percent.decode (name.toList.map unplus)

/-- The percent form of a byte has no plus sign. -/
theorem unplus_encodeByte (b : UInt8) :
    (Percent.encodeByte b).map unplus = Percent.encodeByte b := by
  have hdigit : ∀ {n : Nat}, n < 16 → unplus (Percent.digit n) = Percent.digit n := by decide
  have hbound : b.toNat < 256 := b.toNat_lt
  have hhigh : b.toNat / 16 < 16 := by omega
  simp only [Percent.encodeByte, List.map_cons, List.map_nil, hdigit hhigh,
    hdigit (Nat.mod_lt b.toNat (show 0 < 16 by decide)), show unplus '%' = '%' from rfl]

theorem unplus_encodeBytes (bytes : List UInt8) :
    (bytes.flatMap Percent.encodeByte).map unplus = bytes.flatMap Percent.encodeByte := by
  simp only [List.map_flatMap, unplus_encodeByte]

/-- Neither of the two characters with a meaning of their own stands for itself. -/
theorem ne_of_isPlain {c : Char} (h : isPlain c = true) : c ≠ '+' ∧ c ≠ '%' := by
  constructor <;> rintro rfl <;> revert h <;> decide

/-- A name is read back from its encoded form. -/
theorem decode_encodeChars (name rest : List Char) :
    Percent.decode ((encodeChars name).map unplus ++ rest) =
      Utf8.encode name ++ Percent.decode rest := by
  induction name with
  | nil => rfl
  | cons c name ih =>
    have hsplit : encodeChars (c :: name) =
        (if c = ' ' then ['+'] else Percent.encode isPlain [c]) ++ encodeChars name :=
      List.flatMap_cons
    have hbytes : Utf8.encode (c :: name) = Utf8.encodeChar c ++ Utf8.encode name :=
      List.flatMap_cons
    rw [hsplit, hbytes, List.map_append, List.append_assoc, List.append_assoc, ← ih]
    -- A blank is a plus sign, which is read as a blank before the rest is decoded.
    by_cases hblank : c = ' '
    · subst hblank
      exact Percent.decode_cons (by decide) _
    rw [if_neg hblank, Percent.encode, List.flatMap_singleton]
    split
    · next hkept =>
      obtain ⟨hplus, htriple⟩ := ne_of_isPlain (Bool.and_eq_true_iff.1 hkept).2
      simp only [List.map_cons, List.map_nil, unplus, if_neg hplus, List.cons_append,
        List.nil_append]
      exact Percent.decode_cons htriple _
    · rw [unplus_encodeBytes]
      exact Percent.decode_encodeBytes _ _

/-- **The name of a text can be read back.** -/
theorem decode_encode (name : String) : decode (encode name) = Utf8.encode name.toList := by
  have hread : decode (String.ofList (encodeChars name.toList)) = Utf8.encode name.toList := by
    have h := decode_encodeChars name.toList []
    simpa [decode, Percent.decode] using h
  unfold encode
  -- The two names that are written as triples altogether stand for the same bytes.
  split
  · next hdot => exact (hdot ▸ hread : decode "." = _)
  · next hdots => exact (hdots ▸ hread : decode ".." = _)
  · exact hread

/-- Different names have different encoded forms. -/
theorem encode_injective : Function.Injective encode := by
  intro name name' h
  have hbytes : Utf8.encode name.toList = Utf8.encode name'.toList := by
    rw [← decode_encode, h, decode_encode]
  exact String.toList_injective (Utf8.encode_injective hbytes)

theorem encode_empty : encode "" = "" := by
  decide

theorem encode_eq_empty_iff {name : String} : encode name = "" ↔ name = "" := by
  constructor
  · intro h
    exact encode_injective (h.trans encode_empty.symm)
  · rintro rfl
    exact encode_empty

/-! ### Suffixes -/

theorem ofKey_injective : Function.Injective ofKey := by
  intro key key' h
  exact encode_injective ((String.append_left_inj _).1 h)

/-- Names that end in different characters are different. -/
theorem append_ne_append {b d : String} {x y : Char} (hb : b.toList.getLast? = some x)
    (hd : d.toList.getLast? = some y) (hne : x ≠ y) (a c : String) : a ++ b ≠ c ++ d := by
  intro heq
  have hlast := congrArg (fun text : String => text.toList.getLast?) heq
  simp only [String.toList_append, List.getLast?_append, hb, hd, Option.some_or] at hlast
  exact hne (Option.some.inj hlast)

/-- The file of a key is told from the lock by its ending. -/
theorem ofKey_ne_lock (key : String) : ofKey key ≠ lock :=
  append_ne_append (b := ".data") (d := lock) rfl rfl (by decide) (encode key) ""

theorem ofKey_ne_temporary (key name : String) : ofKey key ≠ temporary name :=
  append_ne_append (b := ".data") (d := ".tmp") rfl rfl (by decide) (encode key) name

theorem temporary_ne_lock (name : String) : temporary name ≠ lock :=
  append_ne_append (b := ".tmp") (d := lock) rfl rfl (by decide) name ""

end FileName

end LiveFlags
