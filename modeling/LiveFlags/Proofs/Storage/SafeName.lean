import LiveFlags.Proofs.Storage.FileName
import LiveFlags.Proofs.Text.CharClass
import LiveFlags.Storage.Files
import Mathlib.Data.List.Basic

/-!
# Safe names

A name is written byte by byte: letters, digits and four marks stand for themselves, a plus sign for
a blank and a triple for every other byte (`encodeChars_eq`). So no name holds a slash, and since
the two names by which a directory means itself and its parent are written in another way, a name
never leads out of the directory in which it is used (`isSafe_encode`). The suffixes keep this.

Only the empty text has the empty name. No file has it, because of the suffixes, and no directory,
because the empty namespace is kept in the root itself. So all that a `FileStorage` touches lies
below its root.

Main statements: `FileName.safe_and_distinct`, `FileStorage.isBelow_of_mem_steps`.
-/

namespace LiveFlags

namespace FileName

/-! ### Byte by byte -/

/-- What stands for a byte in a name. -/
def formByte (b : UInt8) : List Char :=
  if b = 0x20 then ['+']
  else if isPlain (Char.ofUInt8 b) then [Char.ofUInt8 b]
  else Percent.encodeByte b

theorem lt_of_isPlain {c : Char} (h : isPlain c = true) : c.toNat < 0x80 := by
  simp only [isPlain, Bool.or_eq_true, beq_iff_eq] at h
  rcases h with (((h | rfl) | rfl) | rfl) | rfl
  · have hletter := toNat_of_isAlphanum h
    omega
  all_goals decide

theorem toNat_ofUInt8 (b : UInt8) : (Char.ofUInt8 b).toNat = b.toNat :=
  b.toNat_toUInt32

/-- A byte beyond ASCII gets its percent form. -/
theorem formByte_of_le {b : UInt8} (h : 0x80 ≤ b.toNat) :
    formByte b = Percent.encodeByte b := by
  have hblank : b ≠ 0x20 := by
    rintro rfl
    exact absurd h (by decide)
  have hplain : ¬ isPlain (Char.ofUInt8 b) = true := by
    intro hplain
    have hascii := lt_of_isPlain hplain
    rw [toNat_ofUInt8] at hascii
    omega
  rw [formByte, if_neg hblank, if_neg hplain]

/-- The bytes of a character are written as the character is. -/
theorem flatMap_formByte_encodeChar (c : Char) :
    (Utf8.encodeChar c).flatMap formByte =
      if c = ' ' then ['+'] else Percent.encode isPlain [c] := by
  rw [Percent.encode, List.flatMap_singleton]
  by_cases hascii : c.toNat < 0x80
  · -- The only byte is the character itself.
    have hcode : (UInt8.ofNat c.toNat).toNat = c.toNat := by
      rw [UInt8.toNat_ofNat', Nat.mod_eq_of_lt (by omega)]
    have hchar : Char.ofUInt8 (UInt8.ofNat c.toNat) = c := by
      rw [← Char.toNat_inj, toNat_ofUInt8, hcode]
    have hblank : UInt8.ofNat c.toNat = 0x20 ↔ c = ' ' := by
      rw [← UInt8.toNat_inj, hcode, ← Char.toNat_inj]
      rfl
    simp only [Utf8.encodeChar_of_lt hascii, List.flatMap_singleton, formByte, hblank, hchar,
      hascii, decide_true, Bool.true_and]
  · -- None of the bytes is a blank or stands for itself.
    have hblank : c ≠ ' ' := by
      rintro rfl
      exact hascii (by decide)
    have hbytes : ∀ b ∈ Utf8.encodeChar c, formByte b = Percent.encodeByte b := by
      intro b hb
      exact formByte_of_le (Utf8.le_of_mem_encodeChar (Nat.not_lt.1 hascii) hb)
    rw [List.flatMap_congr hbytes, if_neg hblank]
    simp only [hascii, decide_false, Bool.false_and, Bool.false_eq_true, if_false]

/-- **A name is written byte by byte.** -/
theorem encodeChars_eq (name : List Char) :
    encodeChars name = (Utf8.encode name).flatMap formByte := by
  rw [Utf8.encode, List.flatMap_assoc, encodeChars]
  simp only [flatMap_formByte_encodeChar]

example : encode "user/1 é%" = "user%2F1+%C3%A9%25" := by decide

/-! ### Names that stay in their directory -/

/-- The characters that names are made of. A slash is none of them. -/
def isNameChar (c : Char) : Bool :=
  c.isAlphanum || ['*', '-', '.', '_', '+', '%'].contains c

/-- A name of such characters by which a directory means neither itself nor its parent. -/
structure IsSafe (name : String) : Prop where
  isNameChar : ∀ c ∈ name.toList, isNameChar c = true
  ne_self : name ≠ "."
  ne_parent : name ≠ ".."

theorem isNameChar_of_isPlain {c : Char} (h : isPlain c = true) : isNameChar c = true := by
  simp only [isPlain, Bool.or_eq_true, beq_iff_eq] at h
  rcases h with (((h | rfl) | rfl) | rfl) | rfl
  · rw [isNameChar, h, Bool.true_or]
  all_goals decide

theorem isNameChar_digit : ∀ {n : Nat}, n < 16 → isNameChar (Percent.digit n) = true := by
  decide

/-- Whatever stands for a byte may stand in a name. -/
theorem isNameChar_of_mem_formByte {b : UInt8} {c : Char} (h : c ∈ formByte b) :
    isNameChar c = true := by
  unfold formByte at h
  split_ifs at h with hblank hplain
  · obtain rfl := List.mem_singleton.1 h
    decide
  · obtain rfl := List.mem_singleton.1 h
    exact isNameChar_of_isPlain hplain
  · have hbound : b.toNat < 256 := b.toNat_lt
    simp only [Percent.encodeByte, List.mem_cons, List.not_mem_nil, or_false] at h
    rcases h with rfl | rfl | rfl
    · decide
    · exact isNameChar_digit (by omega)
    · exact isNameChar_digit (Nat.mod_lt _ (by decide))

/-- **The name of a text is safe.** -/
theorem isSafe_encode (text : String) : IsSafe (encode text) := by
  have hchars : ∀ c ∈ encodeChars text.toList, isNameChar c = true := by
    intro c hc
    rw [encodeChars_eq, List.mem_flatMap] at hc
    obtain ⟨b, -, hb⟩ := hc
    exact isNameChar_of_mem_formByte hb
  unfold encode
  -- Only the two names that are written in another way would not be safe.
  split
  · exact ⟨List.all_eq_true.1 (by decide), by decide, by decide⟩
  · exact ⟨List.all_eq_true.1 (by decide), by decide, by decide⟩
  · next hself hparent =>
    refine ⟨fun c hc => hchars c ?_, hself, hparent⟩
    rwa [String.toList_ofList] at hc

/-- A suffix keeps a name safe. -/
theorem IsSafe.append {name suffix : String} (h : IsSafe name)
    (hsuffix : suffix.toList.all FileName.isNameChar = true)
    {x : Char} (hlast : suffix.toList.getLast? = some x) (hdot : x ≠ '.') :
    IsSafe (name ++ suffix) where
  isNameChar := by
    intro c hc
    rw [String.toList_append, List.mem_append] at hc
    rcases hc with hc | hc
    · exact h.isNameChar c hc
    · exact List.all_eq_true.1 hsuffix c hc
  ne_self := append_ne_append (d := ".") hlast rfl hdot name ""
  ne_parent := append_ne_append (d := "..") hlast rfl hdot name ""

theorem isSafe_ofKey (key : String) : IsSafe (ofKey key) :=
  (isSafe_encode key).append (by decide) (x := 'a') rfl (by decide)

theorem IsSafe.temporary {name : String} (h : IsSafe name) : IsSafe (temporary name) :=
  h.append (by decide) (x := 'p') rfl (by decide)

theorem isSafe_lock : IsSafe lock :=
  ⟨List.all_eq_true.1 (by decide), by decide, by decide⟩

theorem ofKey_ne_empty (key : String) : ofKey key ≠ "" := by
  intro hempty
  exact absurd (String.append_eq_empty_iff.1 hempty).2 (by decide)

theorem temporary_ne_empty (name : String) : temporary name ≠ "" := by
  intro hempty
  exact absurd (String.append_eq_empty_iff.1 hempty).2 (by decide)

/-- **Names are safe and distinct.** Two texts never share a name, each name is safe, and the file
of a key is neither the lock nor a temporary file nor the file of another key. -/
theorem safe_and_distinct :
    Function.Injective encode ∧ (∀ text, IsSafe (encode text)) ∧
      (∀ key other, ofKey key ≠ lock ∧ ofKey key ≠ temporary (ofKey other)) ∧
      Function.Injective ofKey := by
  refine ⟨encode_injective, isSafe_encode, ?_, ofKey_injective⟩
  intro key other
  exact ⟨ofKey_ne_lock key, ofKey_ne_temporary key (ofKey other)⟩

end FileName

/-! ### What a storage touches -/

/-- The paths that an operation names. -/
def FileStep.paths : FileStep → List Path
  | .makeDirectories path | .lock path | .create path | .append path _ | .sync path
  | .remove path => [path]
  | .rename source target => [source, target]

namespace FileStorage

/-- A path that goes down from the root by names of entries. -/
def IsBelow (root path : Path) : Prop :=
  ∃ names, path = root ++ names ∧ ∀ name ∈ names, FileName.IsSafe name ∧ name ≠ ""

/-- The directory of a namespace is the root or in it. -/
theorem isBelow_directory (root : Path) (space : String) : IsBelow root (directory root space) := by
  unfold directory
  split_ifs with hempty
  · exact ⟨[], (List.append_nil root).symm, nofun⟩
  · refine ⟨[FileName.encode space], rfl, ?_⟩
    intro name hname
    obtain rfl := List.mem_singleton.1 hname
    exact ⟨FileName.isSafe_encode space, hempty⟩

theorem IsBelow.concat {root path : Path} (h : IsBelow root path) {name : String}
    (hsafe : FileName.IsSafe name) (hne : name ≠ "") : IsBelow root (path ++ [name]) := by
  obtain ⟨names, rfl, hnames⟩ := h
  refine ⟨names ++ [name], List.append_assoc .., ?_⟩
  intro entry hentry
  rcases List.mem_append.1 hentry with hentry | hentry
  · exact hnames entry hentry
  · obtain rfl := List.mem_singleton.1 hentry
    exact ⟨hsafe, hne⟩

/-- The file of a key, which is all that reading looks at, lies below the root. -/
theorem isBelow_file (root : Path) (space key : String) : IsBelow root (file root space key) :=
  (isBelow_directory root space).concat (FileName.isSafe_ofKey key) (FileName.ofKey_ne_empty key)

variable {root path : Path} {space key : String} {text : Option String} {step : FileStep}

/-- A write names the directory and three files in it. -/
theorem eq_of_mem_steps (h : step ∈ steps root space key text) (hpath : path ∈ step.paths) :
    path = directory root space ∨ path = directory root space ++ [FileName.lock] ∨
      path = temporary root space key ∨ path = file root space key := by
  cases text with
  | none =>
    simp only [steps, List.cons_append, List.nil_append, List.mem_cons, List.not_mem_nil,
      or_false] at h
    rcases h with rfl | rfl | rfl <;> simp_all [FileStep.paths]
  | some text =>
    simp only [steps, List.cons_append, List.nil_append, List.mem_cons, List.not_mem_nil,
      or_false] at h
    rcases h with rfl | rfl | rfl | rfl | rfl | rfl <;> simp_all [FileStep.paths]

/-- **No operation of a write names a path outside of the root.** -/
theorem isBelow_of_mem_steps (h : step ∈ steps root space key text) (hpath : path ∈ step.paths) :
    IsBelow root path := by
  have hdirectory := isBelow_directory root space
  rcases eq_of_mem_steps h hpath with heq | heq | heq | heq <;> rw [heq]
  · exact hdirectory
  · exact hdirectory.concat FileName.isSafe_lock (by decide)
  · exact hdirectory.concat (FileName.isSafe_ofKey key).temporary (FileName.temporary_ne_empty _)
  · exact isBelow_file root space key

end FileStorage

end LiveFlags
