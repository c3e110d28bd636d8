import LiveFlags.Json.Basic

/-!
# The shape of JSON values

Three properties of a value decide whether its text can be read again: how many containers stand
inside one another (`depth`), whether a number in it is a floating-point one (`isWhole`), and
whether it has the form in which readers build values, with whole numbers of 64 bits and the members
of an object in increasing order (`Readable`, which also bounds the depth).

Main statement: `Readable.of_depth_le`.
-/

namespace LiveFlags.Json

mutual

/-- How many containers stand inside one another. -/
def depth : Json → Nat
  | .arr items => depthItems items + 1
  | .obj members => depthMembers members + 1
  | _ => 0

/-- The depth of the deepest item. -/
def depthItems : List Json → Nat
  | [] => 0
  | value :: items => max value.depth (depthItems items)

/-- The depth of the deepest member. -/
def depthMembers : List (String × Json) → Nat
  | [] => 0
  | (_, value) :: members => max value.depth (depthMembers members)

end

mutual

/-- Whether no number in the value is a floating-point one. -/
def isWhole : Json → Bool
  | .float _ => false
  | .arr items => areWholeItems items
  | .obj members => areWholeMembers members
  | _ => true

/-- Whether no number in the items is a floating-point one. -/
def areWholeItems : List Json → Bool
  | [] => true
  | value :: items => value.isWhole && areWholeItems items

/-- Whether no number in the members is a floating-point one. -/
def areWholeMembers : List (String × Json) → Bool
  | [] => true
  | (_, value) :: members => value.isWhole && areWholeMembers members

end

theorem depthItems_le_iff {items : List Json} {n : Nat} :
    depthItems items ≤ n ↔ ∀ value ∈ items, value.depth ≤ n := by
  induction items with
  | nil => simp [depthItems]
  | cons value items ih => rw [depthItems, Nat.max_le, ih, List.forall_mem_cons]

theorem depthMembers_le_iff {members : List (String × Json)} {n : Nat} :
    depthMembers members ≤ n ↔ ∀ m ∈ members, m.2.depth ≤ n := by
  induction members with
  | nil => simp [depthMembers]
  | cons m members ih => rw [depthMembers, Nat.max_le, ih, List.forall_mem_cons]

theorem isWhole_arr {items : List Json} :
    (Json.arr items).isWhole = true ↔ ∀ value ∈ items, value.isWhole = true := by
  rw [isWhole]
  induction items with
  | nil => simp [areWholeItems]
  | cons value items ih => simp [areWholeItems, ih]

theorem isWhole_obj {members : List (String × Json)} :
    (Json.obj members).isWhole = true ↔ ∀ m ∈ members, m.2.isWhole = true := by
  rw [isWhole]
  induction members with
  | nil => simp [areWholeMembers]
  | cons m members ih => simp [areWholeMembers, ih]

/-- The values to which a reader can come that may open `n` containers inside one another. -/
inductive Readable : Nat → Json → Prop
  | null {n : Nat} : Readable n .null
  | bool {n : Nat} (b : Bool) : Readable n (.bool b)
  | int {n : Nat} {i : Int} : -2 ^ 63 ≤ i → i < 2 ^ 64 → Readable n (.int i)
  | float {n : Nat} (x : Binary64) : Readable n (.float x)
  | str {n : Nat} (s : String) : Readable n (.str s)
  | arr {n : Nat} {items : List Json} :
    (∀ value ∈ items, Readable n value) → Readable (n + 1) (.arr items)
  | obj {n : Nat} {members : List (String × Json)} :
    members.Pairwise (·.1 < ·.1) → (∀ m ∈ members, Readable n m.2) →
      Readable (n + 1) (.obj members)

theorem Readable.depth_le {n : Nat} {value : Json} (h : Readable n value) : value.depth ≤ n := by
  induction h with
  | null | bool | int | float | str => simp [depth]
  | arr _ ih => simpa [depth, depthItems_le_iff] using ih
  | obj _ _ ih => simpa [depth, depthMembers_le_iff] using ih

/-- Only the depth of a value matters for how many containers have to be allowed. -/
theorem Readable.of_depth_le {m n : Nat} {value : Json} (h : Readable m value)
    (hdepth : value.depth ≤ n) : Readable n value := by
  induction h generalizing n with
  | null => exact .null
  | bool b => exact .bool b
  | int hlow hhigh => exact .int hlow hhigh
  | float x => exact .float x
  | str s => exact .str s
  | arr _ ih =>
    obtain ⟨n, rfl⟩ : ∃ k, n = k + 1 := Nat.exists_eq_add_one.2 (by rw [depth] at hdepth; omega)
    rw [depth, Nat.add_le_add_iff_right, depthItems_le_iff] at hdepth
    exact .arr fun value hmem => ih value hmem (hdepth value hmem)
  | obj hsorted _ ih =>
    obtain ⟨n, rfl⟩ : ∃ k, n = k + 1 := Nat.exists_eq_add_one.2 (by rw [depth] at hdepth; omega)
    rw [depth, Nat.add_le_add_iff_right, depthMembers_le_iff] at hdepth
    exact .obj hsorted fun m hmem => ih m hmem (hdepth m hmem)

end LiveFlags.Json
