import LiveFlags.Text.CharClass

/-!
# Relations between character classes

Two classes that are given by the points at which membership changes can be compared without going
through all characters: `covers` looks whether each interval of one class lies in an interval of the
other. So a decimal digit is a word character. White space is neither a digit nor, in ASCII, a
letter.
-/

namespace LiveFlags

theorem inClass_cons_cons (a b : Nat) (rest : List Nat) (code : Nat) :
    inClass (a :: b :: rest) code =
      if code < a then false else if code < b then true else inClass rest code := by
  unfold inClass
  by_cases ha : code < a
  · simp [ha, Nat.not_le.2 ha]
  · by_cases hb : code < b
    · simp [ha, hb, Nat.not_le.2 hb, Nat.not_lt.1 ha]
    · simp only [ha, hb, Nat.not_lt.1 ha, Nat.not_lt.1 hb, decide_true, List.takeWhile_cons_of_pos,
        List.length_cons, if_false, decide_eq_decide]
      omega

theorem le_of_inClass {a code : Nat} {rest : List Nat} (h : inClass (a :: rest) code = true) :
    a ≤ code := by
  apply Nat.not_lt.1
  intro hlt
  simp [inClass, Nat.not_le.2 hlt] at h

/-- The class without the intervals at its beginning that lie between two points. -/
def dropInside (low high : Nat) : List Nat → List Nat
  | a :: b :: rest => if low ≤ a ∧ b ≤ high then dropInside low high rest else a :: b :: rest
  | boundaries => boundaries

theorem inClass_dropInside (low high : Nat) {boundaries : List Nat} {code : Nat}
    (h : inClass boundaries code = true) :
    (low ≤ code ∧ code < high) ∨ inClass (dropInside low high boundaries) code = true := by
  induction boundaries using dropInside.induct low high with
  | case1 a b rest hinside ih =>
    rw [dropInside, if_pos hinside]
    rw [inClass_cons_cons] at h
    split at h
    · cases h
    · split at h
      · exact .inl (by omega)
      · exact ih h
  | case2 a b rest hout =>
    rw [dropInside, if_neg hout]
    exact .inr h
  | case3 boundaries hshort =>
    rw [dropInside]
    · exact .inr h
    · exact hshort

/-- Each interval of the second class lies in one of the first. -/
def covers : List Nat → List Nat → Bool
  | low :: high :: outer, inner =>
    match dropInside low high inner with
    | [] => true
    | a :: rest => low ≤ high && high ≤ a && covers outer (a :: rest)
  | _, inner => inner.isEmpty

theorem inClass_of_covers {outer inner : List Nat} (hcovers : covers outer inner = true)
    {code : Nat} (h : inClass inner code = true) : inClass outer code = true := by
  induction outer, inner using covers.induct with
  | case1 low high outer inner hdrop =>
    rw [inClass_cons_cons]
    rcases inClass_dropInside low high h with hinside | hnone
    · rw [if_neg (by omega), if_pos hinside.2]
    · rw [hdrop] at hnone
      cases hnone
  | case2 low high outer inner a rest hdrop ih =>
    rw [covers, hdrop] at hcovers
    simp only [Bool.and_eq_true, decide_eq_true_eq] at hcovers
    obtain ⟨⟨hordered, hbehind⟩, hcovers⟩ := hcovers
    rw [inClass_cons_cons]
    rcases inClass_dropInside low high h with hinside | hlater
    · rw [if_neg (by omega), if_pos hinside.2]
    · rw [hdrop] at hlater
      have hcode := le_of_inClass hlater
      rw [if_neg (by omega), if_neg (by omega)]
      exact ih hcovers hlater
  | case3 outer inner hshort =>
    rw [covers] at hcovers
    · rw [List.isEmpty_iff.1 hcovers] at h
      cases h
    · exact hshort

/-- **A decimal digit is a word character.** -/
theorem isWordChar_of_isDecimalDigit {c : Char} (h : isDecimalDigit c = true) :
    isWordChar c = true := by
  have hcovers : covers wordBoundaries digitBoundaries = true := by decide +kernel
  unfold isDecimalDigit at h
  unfold isWordChar
  split
  · next hascii =>
    rw [if_pos hascii] at h
    simp [Char.isAlphanum, h]
  · next hascii =>
    rw [if_neg hascii] at h
    exact inClass_of_covers hcovers h

/-- The code points of white space from 128 on. -/
def blankCodes : List Nat := [
  0x85, 0xa0, 0x1680, 0x2000, 0x2001, 0x2002, 0x2003, 0x2004, 0x2005, 0x2006, 0x2007, 0x2008,
  0x2009, 0x200a, 0x2028, 0x2029, 0x202f, 0x205f, 0x3000]

theorem toNat_of_isBlank {c : Char} (h : isBlank c = true) :
    c.toNat ≤ 0x20 ∨ c.toNat ∈ blankCodes := by
  simp only [isBlank, Bool.or_eq_true, Bool.and_eq_true, decide_eq_true_eq] at h
  simp only [blankCodes, List.mem_cons, List.not_mem_nil, or_false]
  omega

theorem toNat_of_isAlphanum {c : Char} (h : c.isAlphanum = true) :
    48 ≤ c.toNat ∧ c.toNat ≤ 122 := by
  have hranges : ((decide (65 ≤ c.toNat ∧ c.toNat ≤ 90) ||
      (decide (97 ≤ c.toNat) && decide (c.toNat ≤ 122))) ||
      (decide (48 ≤ c.toNat) && decide (c.toNat ≤ 57))) = true := h
  simp only [Bool.or_eq_true, Bool.and_eq_true, decide_eq_true_eq] at hranges
  omega

theorem isAlphanum_of_toLower {c : Char} (h : c.toLower.isAlphanum = true) :
    c.isAlphanum = true := by
  by_cases hupper : c.val ≥ 'A'.val ∧ c.val ≤ 'Z'.val
  · have hcapital : c.isUpper = true := decide_eq_true hupper
    show ((c.isUpper || c.isLower) || c.isDigit) = true
    rw [hcapital, Bool.true_or, Bool.true_or]
  · have hsame : c.toLower = c := dif_neg hupper
    rwa [hsame] at h

theorem isAlphanum_of_isBlank {c : Char} (h : isBlank c = true) : c.isAlphanum = false := by
  have hcodes : ∀ code ∈ blankCodes, 128 ≤ code := by decide
  have hcode : c.toNat ≤ 0x20 ∨ 128 ≤ c.toNat := (toNat_of_isBlank h).imp id (hcodes _)
  rw [Bool.eq_false_iff]
  intro hplain
  have := toNat_of_isAlphanum hplain
  omega

theorem isDecimalDigit_of_isBlank {c : Char} (h : isBlank c = true) : isDecimalDigit c = false := by
  have hcodes : ∀ code ∈ blankCodes, ¬ code < 128 ∧ inClass digitBoundaries code = false := by
    decide
  unfold isDecimalDigit
  rcases toNat_of_isBlank h with hascii | hcode
  · rw [if_pos (by omega)]
    exact (Bool.or_eq_false_iff.1 (isAlphanum_of_isBlank h)).2
  · obtain ⟨hnot, hclass⟩ := hcodes _ hcode
    rw [if_neg hnot, hclass]

end LiveFlags
