import LiveFlags.Number.Binary64

/-!
# Rounding to 53 significant bits

`IsSignificant` holds of the naturals that a double holds exactly, as far as the number of bits is
concerned. `nearest53` leads to such a number, and never past one: what lies below or above a
significant number does so after rounding as well. Therefore significant numbers stay what they are,
and rounding keeps the order of all numbers.
-/

namespace LiveFlags

/-! ### To the nearest whole number -/

theorem roundHalfEven_le {num den c : Nat} (h : num ≤ c * den) (hden : 0 < den) :
    roundHalfEven num den ≤ c := by
  have hdiv : num / den ≤ c := Nat.div_le_of_le_mul (by rwa [Nat.mul_comm])
  simp only [roundHalfEven]
  split
  · exact hdiv
  · next hnot =>
    -- The number is rounded up, so it is no multiple of the denominator, nor the quotient `c`.
    have hmod : 0 < num % den := by omega
    have hsum := Nat.div_add_mod num den
    have hne : num / den ≠ c := by
      rintro rfl
      have hcomm := Nat.mul_comm den (num / den)
      omega
    omega

theorem le_roundHalfEven {num den c : Nat} (h : c * den ≤ num) (hden : 0 < den) :
    c ≤ roundHalfEven num den := by
  have hdiv : c ≤ num / den := (Nat.le_div_iff_mul_le hden).2 h
  simp only [roundHalfEven]
  split
  · exact hdiv
  · omega

theorem roundHalfEven_mono {num num' den : Nat} (h : num ≤ num') :
    roundHalfEven num den ≤ roundHalfEven num' den := by
  have hdiv : num / den ≤ num' / den := Nat.div_le_div_right h
  rcases Nat.lt_or_eq_of_le hdiv with hlt | heq
  · have hup : roundHalfEven num den ≤ num / den + 1 := by
      simp only [roundHalfEven]
      split <;> omega
    have hdown : num' / den ≤ roundHalfEven num' den := by
      simp only [roundHalfEven]
      split <;> omega
    omega
  · -- With the same quotient, the number that is rounded up has no smaller remainder.
    have hmod : num % den ≤ num' % den := by
      have hsum := Nat.div_add_mod num den
      have hsum' := Nat.div_add_mod num' den
      rw [heq] at hsum
      omega
    simp only [roundHalfEven, heq]
    split <;> split <;> omega

/-! ### Significant numbers -/

/-- The number has at most 53 significant bits. -/
def IsSignificant (n : Nat) : Prop :=
  ∃ m e, m < 2 ^ 53 ∧ n = m * 2 ^ e

theorem isSignificant_of_le {n : Nat} (h : n ≤ 2 ^ 53) : IsSignificant n := by
  rcases Nat.lt_or_eq_of_le h with hlt | rfl
  · exact ⟨n, 0, hlt, (Nat.mul_one n).symm⟩
  · exact ⟨1, 53, by decide, (Nat.one_mul _).symm⟩

theorem IsSignificant.mul_two_pow {n : Nat} (h : IsSignificant n) (k : Nat) :
    IsSignificant (n * 2 ^ k) := by
  obtain ⟨m, e, hm, rfl⟩ := h
  exact ⟨m, e + k, hm, by rw [Nat.pow_add, Nat.mul_assoc]⟩

theorem IsSignificant.min {n k : Nat} (hn : IsSignificant n) (hk : IsSignificant k) :
    IsSignificant (min n k) := by
  rcases Nat.le_total n k with h | h
  · rwa [Nat.min_eq_left h]
  · rwa [Nat.min_eq_right h]

/-- A number with bits in excess has all of its 53. -/
theorem two_pow_le_of_excessBits {n : Nat} (h : 0 < excessBits n) :
    2 ^ (52 + excessBits n) ≤ n := by
  have hne : n ≠ 0 := by
    rintro rfl
    simp [excessBits] at h
  have hlog : 52 + excessBits n = n.log2 := by
    simp only [excessBits] at h ⊢
    omega
  rw [hlog]
  exact Nat.log2_self_le hne

theorem lt_two_pow_excessBits (n : Nat) : n < 2 ^ (53 + excessBits n) := by
  have hlog : n.log2 + 1 ≤ 53 + excessBits n := by
    simp only [excessBits]
    omega
  exact Nat.lt_of_lt_of_le Nat.lt_log2_self (Nat.pow_le_pow_right (by decide) hlog)

/-- A significant number is a whole number of the units that another one is rounded to, or lies
below all that are rounded to such units. -/
theorem IsSignificant.exists_mul_or_lt {r : Nat} (h : IsSignificant r) (n : Nat) :
    (∃ c, r = c * 2 ^ excessBits n) ∨ (0 < excessBits n ∧ r < 2 ^ (52 + excessBits n)) := by
  obtain ⟨m, e, hm, rfl⟩ := h
  rcases Nat.lt_or_ge e (excessBits n) with he | he
  · refine .inr ⟨by omega, ?_⟩
    calc m * 2 ^ e < 2 ^ 53 * 2 ^ e := Nat.mul_lt_mul_of_pos_right hm (Nat.two_pow_pos e)
      _ = 2 ^ (53 + e) := (Nat.pow_add 2 53 e).symm
      _ ≤ 2 ^ (52 + excessBits n) := Nat.pow_le_pow_right (by decide) (by omega)
  · refine .inl ⟨m * 2 ^ (e - excessBits n), ?_⟩
    rw [Nat.mul_assoc, ← Nat.pow_add, Nat.sub_add_cancel he]

/-- Rounding does not lead past a significant number above. -/
theorem IsSignificant.nearest53_le {n r : Nat} (hr : IsSignificant r) (h : n ≤ r) :
    nearest53 n ≤ r := by
  rcases hr.exists_mul_or_lt n with ⟨c, rfl⟩ | ⟨hpos, hlt⟩
  · exact Nat.mul_le_mul_right _ (roundHalfEven_le h (Nat.two_pow_pos _))
  · have hle := two_pow_le_of_excessBits hpos
    omega

/-- Rounding does not lead past a significant number below. -/
theorem IsSignificant.le_nearest53 {n r : Nat} (hr : IsSignificant r) (h : r ≤ n) :
    r ≤ nearest53 n := by
  rcases hr.exists_mul_or_lt n with ⟨c, rfl⟩ | ⟨hpos, hlt⟩
  · exact Nat.mul_le_mul_right _ (le_roundHalfEven h (Nat.two_pow_pos _))
  · have hle : 2 ^ 52 * 2 ^ excessBits n ≤ n := by
      rw [← Nat.pow_add]
      exact two_pow_le_of_excessBits hpos
    calc r ≤ 2 ^ (52 + excessBits n) := Nat.le_of_lt hlt
      _ = 2 ^ 52 * 2 ^ excessBits n := Nat.pow_add 2 52 _
      _ ≤ nearest53 n := Nat.mul_le_mul_right _ (le_roundHalfEven hle (Nat.two_pow_pos _))

theorem IsSignificant.nearest53_eq {n : Nat} (h : IsSignificant n) : nearest53 n = n :=
  Nat.le_antisymm (h.nearest53_le (Nat.le_refl n)) (h.le_nearest53 (Nat.le_refl n))

/-- Rounding leads to a significant number. It may round up to a power of two. -/
theorem isSignificant_nearest53 (n : Nat) : IsSignificant (nearest53 n) := by
  have hle : roundHalfEven n (2 ^ excessBits n) ≤ 2 ^ 53 := by
    refine roundHalfEven_le ?_ (Nat.two_pow_pos _)
    rw [← Nat.pow_add]
    exact Nat.le_of_lt (lt_two_pow_excessBits n)
  rcases Nat.lt_or_eq_of_le hle with hlt | heq
  · exact ⟨_, _, hlt, rfl⟩
  · refine ⟨1, 53 + excessBits n, by decide, ?_⟩
    rw [nearest53, heq, Nat.one_mul, Nat.pow_add]

/-- Rounding keeps the order of numbers. -/
theorem nearest53_mono {n k : Nat} (h : n ≤ k) : nearest53 n ≤ nearest53 k := by
  have hexcess : excessBits n ≤ excessBits k := by
    have hlog : n.log2 ≤ k.log2 := by
      rcases Nat.eq_zero_or_pos n with rfl | hpos
      · exact Nat.zero_le _
      · exact (Nat.le_log2 (Nat.ne_of_gt (Nat.lt_of_lt_of_le hpos h))).2
          (Nat.le_trans (Nat.log2_self_le (Nat.ne_of_gt hpos)) h)
    simp only [excessBits]
    omega
  rcases Nat.lt_or_eq_of_le hexcess with hlt | heq
  · -- A power of two lies between numbers that are rounded to different units.
    have hpow : 2 ^ (53 + excessBits n) ≤ 2 ^ (52 + excessBits k) :=
      Nat.pow_le_pow_right (by decide) (by omega)
    have hsignificant (e : Nat) : IsSignificant (2 ^ e) := ⟨1, e, by decide, (Nat.one_mul _).symm⟩
    calc nearest53 n ≤ 2 ^ (53 + excessBits n) :=
        (hsignificant _).nearest53_le (Nat.le_of_lt (lt_two_pow_excessBits n))
      _ ≤ 2 ^ (52 + excessBits k) := hpow
      _ ≤ nearest53 k := (hsignificant _).le_nearest53 (two_pow_le_of_excessBits (by omega))
  · rw [nearest53, nearest53, heq]
    exact Nat.mul_le_mul_right _ (roundHalfEven_mono h)

end LiveFlags
