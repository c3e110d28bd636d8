import LiveFlags.Number.Binary64

/-!
# JSON values

`Json` keeps whole numbers and floating-point numbers apart: `1` and `1.0` are different values,
while `0.0` and `-0.0` are the same one. Whole numbers come from the range `-2^63 … 2^64 - 1`.
The members of an object stand in increasing order of their names, each name once;
`Json.insertMember` keeps that order, and a later member replaces an earlier one of its name.

`Json.same` is equality of values. It is coarser than `=` only on the two zeros.
-/

namespace LiveFlags

/-- A JSON value. -/
inductive Json where
  | null
  | bool (value : Bool)
  | int (value : Int)
  | float (value : Binary64)
  | str (value : String)
  | arr (items : List Json)
  | obj (members : List (String × Json))
deriving Repr, Inhabited

namespace Json

/-! ### Equality -/

mutual

/-- Equality of values: the two floating-point zeros are one value. -/
def same : Json → Json → Bool
  | .null, .null => true
  | .bool a, .bool b => a == b
  | .int a, .int b => a == b
  | .float a, .float b => a.same b
  | .str a, .str b => a == b
  | .arr a, .arr b => sameItems a b
  | .obj a, .obj b => sameMembers a b
  | _, _ => false

/-- Equality of arrays, item by item. -/
def sameItems : List Json → List Json → Bool
  | [], [] => true
  | a :: as, b :: bs => a.same b && sameItems as bs
  | _, _ => false

/-- Equality of objects, member by member. -/
def sameMembers : List (String × Json) → List (String × Json) → Bool
  | [], [] => true
  | (k, a) :: as, (l, b) :: bs => k == l && a.same b && sameMembers as bs
  | _, _ => false

end

mutual

/-- Structural equality is decidable. -/
def decEq : (a b : Json) → Decidable (a = b)
  | .null, b => by cases b <;> first | exact isTrue rfl | exact isFalse (by simp)
  | .bool x, b => by
    cases b with
    | bool y => exact decidable_of_iff (x = y) (by simp)
    | _ => exact isFalse (by simp)
  | .int x, b => by
    cases b with
    | int y => exact decidable_of_iff (x = y) (by simp)
    | _ => exact isFalse (by simp)
  | .float x, b => by
    cases b with
    | float y => exact decidable_of_iff (x = y) (by simp)
    | _ => exact isFalse (by simp)
  | .str x, b => by
    cases b with
    | str y => exact decidable_of_iff (x = y) (by simp)
    | _ => exact isFalse (by simp)
  | .arr xs, b => by
    cases b with
    | arr ys => exact @decidable_of_iff _ (xs = ys) (by simp) (decEqItems xs ys)
    | _ => exact isFalse (by simp)
  | .obj xs, b => by
    cases b with
    | obj ys => exact @decidable_of_iff _ (xs = ys) (by simp) (decEqMembers xs ys)
    | _ => exact isFalse (by simp)

/-- Structural equality of arrays is decidable. -/
def decEqItems : (a b : List Json) → Decidable (a = b)
  | [], b => by cases b <;> first | exact isTrue rfl | exact isFalse (by simp)
  | x :: xs, b => by
    cases b with
    | nil => exact isFalse (by simp)
    | cons y ys =>
      exact @decidable_of_iff _ (x = y ∧ xs = ys) (by simp)
        (@instDecidableAnd _ _ (decEq x y) (decEqItems xs ys))

/-- Structural equality of objects is decidable. -/
def decEqMembers : (a b : List (String × Json)) → Decidable (a = b)
  | [], b => by cases b <;> first | exact isTrue rfl | exact isFalse (by simp)
  | (k, x) :: xs, b => by
    cases b with
    | nil => exact isFalse (by simp)
    | cons p ys =>
      obtain ⟨l, y⟩ := p
      exact @decidable_of_iff _ (k = l ∧ x = y ∧ xs = ys) (by simp [and_assoc])
        (@instDecidableAnd _ _ inferInstance
          (@instDecidableAnd _ _ (decEq x y) (decEqMembers xs ys)))

end

instance : DecidableEq Json := decEq

/-! ### Objects -/

/-- Adds a member at its place in the order of names, replacing one of the same name. -/
def insertMember (name : String) (value : Json) : List (String × Json) → List (String × Json)
  | [] => [(name, value)]
  | (n, v) :: rest =>
    if name < n then (name, value) :: (n, v) :: rest
    else if name = n then (name, value) :: rest
    else (n, v) :: insertMember name value rest

/-- The object with the given members, the last of equal names winning. -/
def ofMembers (members : List (String × Json)) : Json :=
  .obj (members.foldl (fun acc m => insertMember m.1 m.2 acc) [])

/-! ### Views of a value -/

def asBool? : Json → Option Bool
  | .bool b => some b
  | _ => none

def asString? : Json → Option String
  | .str s => some s
  | _ => none

/-- A whole number. -/
def asWhole? : Json → Option Int
  | .int i => some i
  | _ => none

/-- The items of an array; there are none in any other value. -/
def items : Json → List Json
  | .arr items => items
  | _ => []

/-- The members of an object; there are none in any other value. -/
def members : Json → List (String × Json)
  | .obj members => members
  | _ => []

/-- Any number as a double; a whole number that is none goes to the nearest. -/
def asFloat? : Json → Option Binary64
  | .int i => some (Binary64.ofInt i)
  | .float x => some x
  | _ => none

/-- Any number as a 64-bit signed integer. Whole numbers in range are kept; every other number is
taken as a double, cut toward zero and held within the range. -/
def asInt? : Json → Option Int
  | .int i =>
    if -2 ^ 63 ≤ i ∧ i < 2 ^ 63 then some i else some (Binary64.ofInt i).toInt64Clamped
  | .float x => some x.toInt64Clamped
  | _ => none

/-- The member of an object, `null` when there is none. -/
def member (value : Json) (name : String) : Json :=
  (value.members.lookup name).getD .null

/-- The member of an object unless it is `null`. -/
def member? (value : Json) (name : String) : Option Json :=
  match value.member name with
  | .null => none
  | v => some v

end Json

end LiveFlags
