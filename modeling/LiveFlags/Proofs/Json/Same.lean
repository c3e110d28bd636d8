import LiveFlags.Json.Basic

/-!
# Equality of JSON values

`Json.same` is an equivalence. Each law is proved for values, arrays and objects at once, along the
recursion of `same`. Two doubles are the same if their bits are, or if both are zero, and that is
where the laws begin.
-/

namespace LiveFlags

namespace Binary64

theorem same_iff (x y : Binary64) :
    x.same y = true ↔ x = y ∨ x.magnitudeBits = 0 ∧ y.magnitudeBits = 0 := by
  simp [same]

theorem same_refl (x : Binary64) : x.same x = true :=
  (same_iff x x).2 (.inl rfl)

theorem same_symm {x y : Binary64} (h : x.same y = true) : y.same x = true := by
  rw [same_iff] at h ⊢
  rcases h with rfl | ⟨hx, hy⟩
  · exact .inl rfl
  · exact .inr ⟨hy, hx⟩

theorem same_trans {x y z : Binary64} (hxy : x.same y = true) (hyz : y.same z = true) :
    x.same z = true := by
  rw [same_iff] at hxy hyz ⊢
  rcases hxy with rfl | ⟨hx, hy⟩
  · exact hyz
  · rcases hyz with rfl | ⟨-, hz⟩
    · exact .inr ⟨hx, hy⟩
    · exact .inr ⟨hx, hz⟩

end Binary64

namespace Json

mutual

theorem same_refl : ∀ a : Json, a.same a = true
  | .null => rfl
  | .bool _ | .int _ | .str _ => by simp [same]
  | .float x => x.same_refl
  | .arr items => sameItems_refl items
  | .obj members => sameMembers_refl members

theorem sameItems_refl : ∀ l : List Json, sameItems l l = true
  | [] => rfl
  | a :: l => by simp [sameItems, same_refl a, sameItems_refl l]

theorem sameMembers_refl : ∀ l : List (String × Json), sameMembers l l = true
  | [] => rfl
  | (_, a) :: l => by simp [sameMembers, same_refl a, sameMembers_refl l]

end

mutual

theorem same_symm {a b : Json} (h : a.same b = true) : b.same a = true := by
  cases a <;> cases b <;> simp only [same, beq_iff_eq, reduceCtorEq] at h ⊢
  case bool.bool | int.int | str.str => exact h.symm
  case float.float => exact Binary64.same_symm h
  case arr.arr => exact sameItems_symm h
  case obj.obj => exact sameMembers_symm h

theorem sameItems_symm {l m : List Json} (h : sameItems l m = true) : sameItems m l = true := by
  match l, m with
  | [], [] => rfl
  | [], _ :: _ | _ :: _, [] => cases h
  | a :: l, b :: m =>
    simp only [sameItems, Bool.and_eq_true] at h ⊢
    exact ⟨same_symm h.1, sameItems_symm h.2⟩

theorem sameMembers_symm {l m : List (String × Json)} (h : sameMembers l m = true) :
    sameMembers m l = true := by
  match l, m with
  | [], [] => rfl
  | [], _ :: _ | _ :: _, [] => cases h
  | (_, a) :: l, (_, b) :: m =>
    simp only [sameMembers, Bool.and_eq_true, beq_iff_eq] at h ⊢
    exact ⟨⟨h.1.1.symm, same_symm h.1.2⟩, sameMembers_symm h.2⟩

end

mutual

theorem same_trans {a b c : Json} (hab : a.same b = true) (hbc : b.same c = true) :
    a.same c = true := by
  cases a <;> cases b <;> simp only [same, beq_iff_eq, reduceCtorEq] at hab <;>
    cases c <;> simp only [same, beq_iff_eq, reduceCtorEq] at hbc ⊢
  case bool.bool.bool | int.int.int | str.str.str => exact hab.trans hbc
  case float.float.float => exact Binary64.same_trans hab hbc
  case arr.arr.arr => exact sameItems_trans hab hbc
  case obj.obj.obj => exact sameMembers_trans hab hbc

theorem sameItems_trans {l m n : List Json} (hlm : sameItems l m = true)
    (hmn : sameItems m n = true) : sameItems l n = true := by
  match l, m, n with
  | [], [], [] => rfl
  | [], [], _ :: _ | _ :: _, _ :: _, [] => cases hmn
  | [], _ :: _, _ | _ :: _, [], _ => cases hlm
  | a :: l, b :: m, c :: n =>
    simp only [sameItems, Bool.and_eq_true] at hlm hmn ⊢
    exact ⟨same_trans hlm.1 hmn.1, sameItems_trans hlm.2 hmn.2⟩

theorem sameMembers_trans {l m n : List (String × Json)} (hlm : sameMembers l m = true)
    (hmn : sameMembers m n = true) : sameMembers l n = true := by
  match l, m, n with
  | [], [], [] => rfl
  | [], [], _ :: _ | _ :: _, _ :: _, [] => cases hmn
  | [], _ :: _, _ | _ :: _, [], _ => cases hlm
  | (_, a) :: l, (_, b) :: m, (_, c) :: n =>
    simp only [sameMembers, Bool.and_eq_true, beq_iff_eq] at hlm hmn ⊢
    exact ⟨⟨hlm.1.1.trans hmn.1.1, same_trans hlm.1.2 hmn.1.2⟩,
      sameMembers_trans hlm.2 hmn.2⟩

end

/-- **Equality of values is an equivalence.** -/
theorem same_equivalence : Equivalence fun a b : Json => a.same b = true :=
  ⟨same_refl, same_symm, same_trans⟩

end Json

end LiveFlags
