import LiveFlags.Json.Reader
import LiveFlags.Json.Printer

/-!
# Strings and numbers that read back

The leaves of a JSON text: a string that `quote` wrote and a whole number that was written in
decimal are read back as they were, and what follows them is left alone. A string ends at its own
quote, whatever follows it. A number has no end of its own, so it matters that only a comma, a
closing bracket or the end of the text can follow (`Follow`).

Main statements: `readString_quote` and `Literal.read_toString`.
-/

namespace LiveFlags.Json

/-- What may stand after a value: nothing, a comma or a closing bracket. -/
def Follow (rest : List Char) : Prop :=
  ∀ c ∈ rest.head?, c = ',' ∨ c = ']' ∨ c = '}'

theorem follow_nil : Follow [] := by
  simp [Follow]

theorem follow_cons {c : Char} {rest : List Char} (h : c = ',' ∨ c = ']' ∨ c = '}') :
    Follow (c :: rest) := by
  simpa [Follow] using h

/-! ### Strings -/

/-- The four digits of a control character are read as its code. -/
theorem hexEscape_control {n : Nat} (h : n < 32) (tail : List Char) :
    hexEscape ('0' :: '0' :: hexDigit (n / 16) :: hexDigit (n % 16) :: tail) = .ok (n, tail) := by
  have hquad : ∀ n : Fin 32,
      hexQuad? '0' '0' (hexDigit (n / 16)) (hexDigit (n % 16)) = some n.val := by
    decide
  simp only [hexEscape, hquad ⟨n, h⟩]

/-- A control character is no surrogate. -/
theorem readEscape_control {c : Char} (h : c.toNat < 32) (tail : List Char) :
    readEscape ('u' :: '0' :: '0' :: hexDigit (c.toNat / 16) :: hexDigit (c.toNat % 16) :: tail) =
      .ok (c, tail) := by
  have htrailing : isTrailingSurrogate c.toNat = false := by
    simp only [isTrailingSurrogate, Bool.and_eq_false_iff, decide_eq_false_iff_not]
    omega
  have hleading : isLeadingSurrogate c.toNat = false := by
    simp only [isLeadingSurrogate, Bool.and_eq_false_iff, decide_eq_false_iff_not]
    omega
  simp [readEscape, hexEscape_control h, bind, Except.bind, htrailing, hleading]

/-- Each character is read back from its place in a quoted string. -/
theorem readStringBody_escapeChar (fuel : Nat) (read : List Char) (c : Char) (tail : List Char) :
    readStringBody (fuel + 1) read (escapeChar c ++ tail) =
      readStringBody fuel (c :: read) tail := by
  unfold escapeChar
  split
  -- Without an escape of its own a character is a control character or stands for itself.
  case h_6 hquote hback _ _ _ =>
    split
    · next h =>
      have hc : Char.ofNat 8 = c := by rw [← h, Char.ofNat_toNat]
      subst hc
      rfl
    · split
      · next h =>
        have hc : Char.ofNat 12 = c := by rw [← h, Char.ofNat_toNat]
        subst hc
        rfl
      · split
        · next h =>
          have hescape := readEscape_control h tail
          simp only [List.cons_append, List.nil_append, readStringBody, hescape, bind, Except.bind]
        · next h =>
          simp only [List.cons_append, List.nil_append]
          rw [readStringBody]
          · rw [if_neg h]
          · exact hquote
          · exact hback
  all_goals rfl

theorem readStringBody_flatMap (cs : List Char) {fuel : Nat} (h : cs.length < fuel)
    (read rest : List Char) :
    readStringBody fuel read (cs.flatMap escapeChar ++ '"' :: rest) =
      .ok (String.ofList (read.reverse ++ cs), rest) := by
  induction cs generalizing fuel read with
  | nil =>
    obtain ⟨fuel, rfl⟩ := Nat.exists_eq_add_of_lt h
    simp [readStringBody]
  | cons c cs ih =>
    obtain ⟨fuel, rfl⟩ := Nat.exists_eq_add_of_lt h
    rw [List.flatMap_cons, List.append_assoc, readStringBody_escapeChar, ih (by simp; omega)]
    simp

theorem length_le_flatMap_escapeChar (cs : List Char) :
    cs.length ≤ (cs.flatMap escapeChar).length := by
  have hpos (c : Char) : 1 ≤ (escapeChar c).length := by
    unfold escapeChar
    split <;> try split <;> try split <;> try split
    all_goals simp
  induction cs with
  | nil => simp
  | cons c cs ih =>
    have := hpos c
    simp only [List.flatMap_cons, List.length_append, List.length_cons]
    omega

/-- **A quoted string reads back**, whatever follows it. -/
theorem readString_quote (s : String) (rest : List Char) :
    readString (s.toList.flatMap escapeChar ++ '"' :: rest) = .ok (s, rest) := by
  have hfuel := length_le_flatMap_escapeChar s.toList
  simp only [readString]
  rw [readStringBody_flatMap _ (by rw [List.length_append, List.length_cons]; omega)]
  simp

/-! ### Whole numbers -/

namespace Literal

open Nat in
/-- Digits whose number fits are all taken into the significand. -/
theorem absorb_eq {digits : List Char} {n : Nat} (h : ofDigitChars 10 digits n < 2 ^ 64) :
    absorb n digits = (ofDigitChars 10 digits n, 0) := by
  induction digits generalizing n with
  | nil => simp [absorb]
  | cons c cs ih =>
    have hstep : 10 * n + digit c ≤ ofDigitChars 10 (c :: cs) n := by
      rw [ofDigitChars_cons, ofDigitChars_eq_ofDigitChars_zero]
      have hpow : 1 ≤ 10 ^ cs.length := Nat.one_le_pow _ _ (by decide)
      calc 10 * n + digit c ≤ 10 ^ cs.length * (10 * n + digit c) := Nat.le_mul_of_pos_left _ hpow
        _ ≤ _ := Nat.le_add_right _ _
    rw [absorb, if_pos (Nat.lt_of_le_of_lt hstep h), ih]
    · rw [ofDigitChars_cons]; rfl
    · rwa [ofDigitChars_cons] at h

/-- The decimal form of a positive number does not begin with a zero. -/
theorem toDigits_append_ne {n : Nat} (h : 0 < n) (rest cs : List Char) :
    Nat.toDigits 10 n ++ rest ≠ '0' :: cs := by
  induction n using Nat.strongRecOn generalizing rest with
  | ind n ih =>
    rcases Nat.lt_or_ge n 10 with hlt | hge
    · rw [Nat.toDigits_of_lt_base hlt]
      simp
      omega
    · rw [Nat.toDigits_of_base_le (by decide) hge, List.append_assoc]
      exact ih (n / 10) (by omega) (by omega) _

theorem takeWhile_toDigits (n : Nat) {rest : List Char} (h : Follow rest) :
    (Nat.toDigits 10 n ++ rest).takeWhile Char.isDigit = Nat.toDigits 10 n := by
  have hdigits : ∀ c ∈ Nat.toDigits 10 n, c.isDigit = true :=
    fun c hc => Nat.isDigit_of_mem_toDigits (by decide) (by decide) hc
  have hrest : rest.takeWhile Char.isDigit = [] := by
    cases rest with
    | nil => rfl
    | cons c rest =>
      rcases h c rfl with rfl | rfl | rfl <;> rfl
  rw [List.takeWhile_append_of_pos hdigits, hrest, List.append_nil]

theorem readUnsigned_toDigits (negative : Bool) {n : Nat} (h : n < 2 ^ 64) {rest : List Char}
    (hrest : Follow rest) :
    readUnsigned negative (Nat.toDigits 10 n ++ rest) = .ok (whole negative n, rest) := by
  have habsorb : absorb 0 (Nat.toDigits 10 n) = (n, 0) := by
    have hvalue : Nat.ofDigitChars 10 (Nat.toDigits 10 n) 0 = n := by simp
    rw [absorb_eq (by rw [hvalue]; exact h), hvalue]
  unfold readUnsigned
  extract_lets digits tail
  -- a literal that begins with a zero has no other digit, and neither has the decimal form of zero
  have hdigits : digits = Nat.toDigits 10 n := by
    unfold digits
    split
    · next heq =>
      rcases Nat.eq_zero_or_pos n with rfl | hpos
      · simp
      · exact absurd heq (toDigits_append_ne hpos _ _)
    · exact takeWhile_toDigits n hrest
  have htail : tail = rest := by
    simp only [tail, hdigits, List.drop_left]
  -- What follows the digits decides between a whole number and a double.
  clear_value digits tail
  subst hdigits htail
  obtain ⟨c, cs, hcs⟩ := List.exists_cons_of_ne_nil (Nat.toDigits_ne_nil (n := n) (b := 10))
  rw [habsorb, hcs]
  cases tail with
  | nil => simp; rfl
  | cons d rest =>
    rcases hrest d rfl with rfl | rfl | rfl
    · simp; rfl
    · simp; rfl
    · simp; rfl

theorem toList_toString_ofNat (n : Nat) : (toString (n : Int)).toList = Nat.toDigits 10 n := by
  simp [Int.repr_eq_if]

theorem toList_toString_neg {n : Nat} (h : 0 < n) :
    (toString (-(n : Int))).toList = '-' :: Nat.toDigits 10 n := by
  have hne : n ≠ 0 := by omega
  simp [Int.repr_eq_if, hne]

theorem isDigit_of_toDigits {n : Nat} {c : Char} {cs : List Char}
    (h : Nat.toDigits 10 n = c :: cs) : c.isDigit = true := by
  have hmem : c ∈ Nat.toDigits 10 n := by rw [h]; exact List.mem_cons_self
  exact Nat.isDigit_of_mem_toDigits (by decide) (by decide) hmem

theorem read_toDigits {n : Nat} (h : n < 2 ^ 64) {rest : List Char} (hrest : Follow rest) :
    Literal.read (Nat.toDigits 10 n ++ rest) = .ok (.int n, rest) := by
  have hunsigned := readUnsigned_toDigits false h hrest
  unfold Literal.read
  split
  · next heq =>
    obtain ⟨c, cs, hcs⟩ := List.exists_cons_of_ne_nil (Nat.toDigits_ne_nil (n := n) (b := 10))
    have hdigit := isDigit_of_toDigits hcs
    rw [hcs, List.cons_append] at heq
    cases heq
    contradiction
  · exact hunsigned

/-- **A whole number of 64 bits reads back**, unless something follows that would belong to it. -/
theorem read_toString {i : Int} (hlow : -2 ^ 63 ≤ i) (hhigh : i < 2 ^ 64) {rest : List Char}
    (hrest : Follow rest) : Literal.read ((toString i).toList ++ rest) = .ok (.int i, rest) := by
  rcases Int.lt_or_le i 0 with hneg | hpos
  · obtain ⟨n, rfl⟩ : ∃ n : Nat, i = -n := ⟨i.natAbs, by omega⟩
    rw [toList_toString_neg (by omega), List.cons_append, Literal.read,
      readUnsigned_toDigits true (by omega) hrest]
    have hzero : n ≠ 0 := by omega
    have hfits : ¬ 2 ^ 63 < n := by omega
    simp [whole, hzero, hfits]
  · obtain ⟨n, rfl⟩ := Int.eq_ofNat_of_zero_le hpos
    rw [toList_toString_ofNat]
    exact read_toDigits (by omega) hrest

/-! ### Literals that were read -/

theorem absorb_lt {n : Nat} (h : n < 2 ^ 64) (cs : List Char) : (absorb n cs).1 < 2 ^ 64 := by
  induction cs generalizing n with
  | nil => exact h
  | cons c cs ih =>
    rw [absorb]
    split
    · next hfits => exact ih hfits
    · exact h

theorem bounds_of_whole {negative : Bool} {n : Nat} (hn : n < 2 ^ 64) {i : Int}
    (h : whole negative n = .int i) : -2 ^ 63 ≤ i ∧ i < 2 ^ 64 := by
  unfold whole at h
  split at h
  · cases h
    omega
  · split at h
    · cases h
    · next hfits =>
      cases h
      omega

theorem bounds_of_readUnsigned {negative : Bool} {cs rest : List Char} {i : Int}
    (h : readUnsigned negative cs = .ok (.int i, rest)) : -2 ^ 63 ≤ i ∧ i < 2 ^ 64 := by
  unfold readUnsigned at h
  extract_lets digits tail at h
  have hlt : (absorb 0 digits).1 < 2 ^ 64 := absorb_lt (by decide) digits
  clear_value tail digits
  simp only [bind, Except.bind, pure, Except.pure] at h
  split at h
  · cases h
  · cases h
  -- a point or an exponent makes a double
  · split at h <;> cases h
  · split at h <;> cases h
  · split at h <;> cases h
  · split at h
    · cases h
    · split at h
      · simp only [Except.ok.injEq, Prod.mk.injEq] at h
        exact bounds_of_whole hlt h.1
      · split at h <;> cases h

/-- A whole number that was read has 64 bits. -/
theorem bounds_of_read {cs rest : List Char} {i : Int}
    (h : Literal.read cs = .ok (.int i, rest)) : -2 ^ 63 ≤ i ∧ i < 2 ^ 64 := by
  unfold Literal.read at h
  split at h <;> exact bounds_of_readUnsigned h

end Literal

end LiveFlags.Json
