import LiveFlags.Text.Utf8
import Mathlib.Tactic.Common

/-!
# UTF-8 there and back

The first byte of a character announces how many bytes follow it and the range of the second one;
for the bytes that `encodeChar` writes both are right (`announced_two`, `announced_three`,
`announced_four`), so that `head` finds the character again.

Main statement: `decode?_encode`.
-/

namespace LiveFlags.Utf8

/-! ### Bytes that follow -/

theorem isTail_tail (m : Nat) : isTail (UInt8.ofNat (0x80 + m % 64)) = true := by
  simp only [isTail, UInt8.le_iff_toNat_le, Bool.and_eq_true, decide_eq_true_eq, UInt8.toNat_ofNat,
    UInt8.toNat_ofNat']
  omega

/-- Each byte that follows adds its six bits to the value. -/
theorem continued_tail (k seen n m : Nat) (rest : List UInt8) :
    continued (k + 1) seen n (UInt8.ofNat (0x80 + m % 64) :: rest) =
      continued k (seen + 1) (n * 64 + m % 64) rest := by
  have hdigit : (UInt8.ofNat (0x80 + m % 64)).toNat % 64 = m % 64 := by
    simp only [UInt8.toNat_ofNat']
    omega
  simp only [continued, isTail_tail, hdigit, if_true]

/-! ### The first byte -/

theorem announced_two {n : Nat} (h : 0x80 ≤ n) (h' : n < 0x800) :
    announced (UInt8.ofNat (0xC0 + n / 64)) = some (1, 0x80, 0xBF) := by
  simp [announced, UInt8.le_iff_toNat_le]
  omega

/-- The range of the second byte leaves out the values that fewer bytes can hold, and the
surrogates. -/
theorem announced_three {n : Nat} (h : 0x800 ≤ n) (h' : n < 0x10000)
    (hvalid : n < 0xD800 ∨ 0xDFFF < n) : ∃ low high,
    announced (UInt8.ofNat (0xE0 + n / 4096)) = some (2, low, high) ∧
      low.toNat ≤ 0x80 + n / 64 % 64 ∧ 0x80 + n / 64 % 64 ≤ high.toNat := by
  have hrange : n / 4096 < 16 := by omega
  unfold announced
  simp only [UInt8.le_iff_toNat_le, ← UInt8.toNat_inj]
  split_ifs <;> simp at * <;> omega

theorem announced_four {n : Nat} (h : 0x10000 ≤ n) (h' : n < 0x110000) : ∃ low high,
    announced (UInt8.ofNat (0xF0 + n / 262144)) = some (3, low, high) ∧
      low.toNat ≤ 0x80 + n / 4096 % 64 ∧ 0x80 + n / 4096 % 64 ≤ high.toNat := by
  have hrange : n / 262144 < 5 := by omega
  unfold announced
  simp only [UInt8.le_iff_toNat_le, ← UInt8.toNat_inj]
  split_ifs <;> simp at * <;> omega

/-- How a first byte that announces others is read together with the second one. -/
theorem head_cons_cons {lead m count : Nat} {low high : UInt8} {rest : List UInt8}
    (hlead : 0x80 ≤ lead) (hlead' : lead < 256)
    (hannounced : announced (UInt8.ofNat lead) = some (count, low, high))
    (hlow : low.toNat ≤ 0x80 + m % 64) (hhigh : 0x80 + m % 64 ≤ high.toNat) :
    head (UInt8.ofNat lead :: UInt8.ofNat (0x80 + m % 64) :: rest) =
      continued (count - 1) 2 (lead % 2 ^ (6 - count) * 64 + m % 64) rest := by
  have hbyte {k : Nat} (hk : k < 256) : (UInt8.ofNat k).toNat = k := by
    rw [UInt8.toNat_ofNat', Nat.mod_eq_of_lt hk]
  have hsecond : 0x80 + m % 64 < 256 := by omega
  have hmulti : ¬ UInt8.ofNat lead < 0x80 := by
    rw [UInt8.lt_iff_toNat_lt, hbyte hlead']
    exact Nat.not_lt.2 hlead
  have hrange :
      (low ≤ UInt8.ofNat (0x80 + m % 64) && UInt8.ofNat (0x80 + m % 64) ≤ high) = true := by
    simp only [UInt8.le_iff_toNat_le, hbyte hsecond, Bool.and_eq_true, decide_eq_true_eq]
    exact ⟨hlow, hhigh⟩
  have hdigit : (0x80 + m % 64) % 64 = m % 64 := by omega
  simp only [head, hmulti, hannounced, hrange, hbyte hlead', hbyte hsecond, hdigit, if_true,
    if_false]

/-! ### Characters and texts -/

theorem head_encodeChar (c : Char) (rest : List UInt8) :
    head (encodeChar c ++ rest) = .char c rest := by
  have hvalid : c.toNat < 0xD800 ∨ (0xDFFF < c.toNat ∧ c.toNat < 0x110000) := c.valid
  unfold encodeChar
  simp only
  split
  · next h =>
    have hbyte : (UInt8.ofNat c.toNat).toNat = c.toNat := by
      rw [UInt8.toNat_ofNat', Nat.mod_eq_of_lt (by omega)]
    have hascii : UInt8.ofNat c.toNat < 0x80 := by
      rw [UInt8.lt_iff_toNat_lt, hbyte]
      exact h
    simp only [List.cons_append, List.nil_append, head, hascii, if_true, hbyte, Char.ofNat_toNat]
  split
  · next h1 h =>
    have hvalue : (0xC0 + c.toNat / 64) % 2 ^ (6 - 1) * 64 + c.toNat % 64 = c.toNat := by omega
    have hlow : (0x80 : UInt8).toNat ≤ 0x80 + c.toNat % 64 := Nat.le_add_right ..
    have hhigh : 0x80 + c.toNat % 64 ≤ (0xBF : UInt8).toNat :=
      Nat.add_le_add_left (Nat.le_of_lt_succ (Nat.mod_lt _ (by decide))) 0x80
    simp only [List.cons_append, List.nil_append, Nat.pow_zero, Nat.div_one]
    rw [head_cons_cons (by omega) (by omega) (announced_two (by omega) h) hlow hhigh, hvalue]
    exact congrArg (Head.char · rest) (Char.ofNat_toNat c)
  split
  · next h1 h2 h =>
    have hvalue : ((0xE0 + c.toNat / 4096) % 2 ^ (6 - 2) * 64 + c.toNat / 64 % 64) * 64 +
        c.toNat % 64 = c.toNat := by omega
    obtain ⟨low, high, hannounced, hlow, hhigh⟩ :=
      announced_three (n := c.toNat) (by omega) h (by omega)
    simp only [List.cons_append, List.nil_append, Nat.pow_zero, Nat.pow_one, Nat.div_one]
    rw [head_cons_cons (by omega) (by omega) hannounced hlow hhigh, continued_tail, hvalue]
    simp only [continued, Char.ofNat_toNat]
  · next h1 h2 h3 =>
    have hvalue : (((0xF0 + c.toNat / 262144) % 2 ^ (6 - 3) * 64 + c.toNat / 4096 % 64) * 64 +
        c.toNat / 64 % 64) * 64 + c.toNat % 64 = c.toNat := by omega
    obtain ⟨low, high, hannounced, hlow, hhigh⟩ :=
      announced_four (n := c.toNat) (by omega) (by omega)
    simp only [List.cons_append, List.nil_append, Nat.pow_zero, Nat.pow_one, Nat.div_one,
      show 64 ^ 2 = 4096 from rfl]
    rw [head_cons_cons (by omega) (by omega) hannounced hlow hhigh, continued_tail,
      continued_tail, hvalue]
    simp only [continued, Char.ofNat_toNat]

theorem encodeChar_of_lt {c : Char} (h : c.toNat < 0x80) :
    encodeChar c = [UInt8.ofNat c.toNat] :=
  if_pos h

/-- A character outside of ASCII has no byte of ASCII. -/
theorem le_of_mem_encodeChar {c : Char} (h : 0x80 ≤ c.toNat) {b : UInt8}
    (hb : b ∈ encodeChar c) : 0x80 ≤ b.toNat := by
  have hvalid : c.toNat < 0xD800 ∨ (0xDFFF < c.toNat ∧ c.toNat < 0x110000) := c.valid
  have hbyte {n : Nat} (hlow : 0x80 ≤ n) (hhigh : n < 256) (heq : b = UInt8.ofNat n) :
      0x80 ≤ b.toNat := by
    rw [heq, UInt8.toNat_ofNat', Nat.mod_eq_of_lt hhigh]
    exact hlow
  unfold encodeChar at hb
  simp only [if_neg (Nat.not_lt.2 h)] at hb
  split_ifs at hb with htwo hthree
  · simp only [List.mem_cons, List.not_mem_nil, or_false] at hb
    rcases hb with hb | hb <;> exact hbyte (by omega) (by omega) hb
  · simp only [List.mem_cons, List.not_mem_nil, or_false] at hb
    rcases hb with hb | hb | hb <;> exact hbyte (by omega) (by omega) hb
  · simp only [List.mem_cons, List.not_mem_nil, or_false] at hb
    rcases hb with hb | hb | hb | hb <;> exact hbyte (by omega) (by omega) hb

theorem encodeChar_ne_nil (c : Char) : encodeChar c ≠ [] := by
  unfold encodeChar
  simp only
  split_ifs <;> exact List.cons_ne_nil _ _

theorem scan_encode (cs read : List Char) {fuel : Nat} (h : (encode cs).length < fuel) :
    scan fuel (encode cs) read = (read.reverse ++ cs, none) := by
  induction cs generalizing fuel read with
  | nil =>
    obtain ⟨fuel, rfl⟩ := Nat.exists_eq_add_of_lt h
    simp [encode, scan, head]
  | cons c cs ih =>
    have hsplit : encode (c :: cs) = encodeChar c ++ encode cs := List.flatMap_cons
    have hpos : 0 < (encodeChar c).length := List.length_pos_iff.2 (encodeChar_ne_nil c)
    rw [hsplit, List.length_append] at h
    cases fuel with
    | zero => omega
    | succ fuel =>
      have hrest : (encode cs).length < fuel := by omega
      simp only [hsplit, scan, head_encodeChar]
      rw [ih _ hrest, List.reverse_cons, List.append_assoc]
      rfl

/-- **Decoding gives back what was encoded.** -/
theorem decode?_encode (cs : List Char) : decode? (encode cs) = some (String.ofList cs) := by
  have hvalid : validPart (encode cs) = (cs, none) := scan_encode cs [] (Nat.lt_succ_self _)
  rw [decode?, hvalid]

theorem encode_injective : Function.Injective encode := by
  intro cs cs' h
  have htext : some (String.ofList cs) = some (String.ofList cs') := by
    rw [← decode?_encode, h, decode?_encode]
  exact String.ofList_injective (Option.some.inj htext)

end LiveFlags.Utf8
