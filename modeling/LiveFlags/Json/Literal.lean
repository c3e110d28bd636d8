import LiveFlags.Json.Basic
import LiveFlags.Json.Fault

/-!
# Number literals

A literal without point and exponent is a whole number while it fits into 64 bits; every other one,
and `-0`, is a double. The double is not always the nearest one: digits are collected into a 64-bit
significand for as long as they fit, later ones only count as a power of ten, and the significand,
rounded to a double, is then multiplied or divided by that power, also rounded. The two roundings
are part of the number format of this module.
-/

namespace LiveFlags.Json

/-- A number as its literal gives it. -/
inductive Literal where
  | int (value : Int)
  | float (value : Binary64)
deriving DecidableEq, Repr

namespace Literal

def digit (c : Char) : Nat :=
  c.toNat - '0'.toNat

/-- Appends digits to a significand while it stays below `2^64`; also counts those left over. -/
def absorb : Nat → List Char → Nat × Nat
  | n, [] => (n, 0)
  | n, c :: cs =>
    if 10 * n + digit c < 2 ^ 64 then absorb (10 * n + digit c) cs else (n, cs.length + 1)

/-- The largest exponent of a power of ten that is a finite double. -/
def largestPower : Nat := 308

/-- A power of ten as a double. -/
def powerOfTen (k : Nat) : Binary64 :=
  Binary64.ofNat (10 ^ k)

/-- Scales a double by a power of ten; a very small scale is applied in several steps, and after
three of them nothing is left. -/
def scaleBy : Nat → Binary64 → Int → Except Fault Binary64
  | 0, x, _ => .ok x
  | fuel + 1, x, e =>
    if e.natAbs ≤ largestPower then
      if 0 ≤ e then
        let y := x.mul (powerOfTen e.natAbs)
        if y.isInfinite then .error .numberTooLarge else .ok y
      else .ok (x.div (powerOfTen e.natAbs))
    else if x.isZero then .ok x
    else if 0 ≤ e then .error .numberTooLarge
    else scaleBy fuel (x.div (powerOfTen largestPower)) (e + largestPower)

/-- The double `significand * 10 ^ exponent`, with a sign. -/
def scaled (negative : Bool) (significand : Nat) (exponent : Int) : Except Fault Binary64 :=
  (scaleBy 4 (Binary64.ofNat significand) exponent).map fun x => if negative then x.neg else x

/-- Reads what follows the `e` of a literal. -/
def readExponent (negative : Bool) (significand : Nat) (start : Int) (cs : List Char) :
    Except Fault (Binary64 × List Char) := do
  let (down, cs) := match cs with
    | '+' :: rest => (false, rest)
    | '-' :: rest => (true, rest)
    | _ => (false, cs)
  let digits := cs.takeWhile Char.isDigit
  let rest := cs.drop digits.length
  match cs, digits with
  | [], _ => .error .endInValue
  | _, [] => .error .badNumber
  | _, _ =>
    let e : Nat := digits.foldl (fun n c => 10 * n + digit c) 0
    if 2 ^ 31 ≤ e then
      if significand ≠ 0 ∧ !down then .error .numberTooLarge
      else return (if negative then (Binary64.ofNat 0).neg else Binary64.ofNat 0, rest)
    else return (← scaled negative significand (if down then start - e else start + e), rest)

/-- Reads what follows the point of a literal. -/
def readFraction (negative : Bool) (significand : Nat) (start : Int) (cs : List Char) :
    Except Fault (Binary64 × List Char) := do
  let digits := cs.takeWhile Char.isDigit
  let rest := cs.drop digits.length
  let (significand, left) := absorb significand digits
  let exponent := start - (digits.length - left : Nat)
  match digits, rest with
  | [], [] => .error .endInValue
  | [], _ => .error .badNumber
  | _, 'e' :: rest | _, 'E' :: rest => readExponent negative significand exponent rest
  | _, rest => return (← scaled negative significand exponent, rest)

/-- The whole number of a literal without point and exponent, if it fits. -/
def whole (negative : Bool) (n : Nat) : Literal :=
  if !negative then .int n
  else if n = 0 ∨ 2 ^ 63 < n then .float (Binary64.ofNat n).neg
  else .int (-(n : Int))

/-- Reads a literal after its sign. -/
def readUnsigned (negative : Bool) (cs : List Char) : Except Fault (Literal × List Char) := do
  let digits := match cs with
    | '0' :: _ => ['0']
    | _ => cs.takeWhile Char.isDigit
  let rest := cs.drop digits.length
  let (significand, left) := absorb 0 digits
  match cs, digits, rest with
  | [], _, _ => .error .endInValue
  | _, [], _ => .error .badNumber
  | _, _, '.' :: rest =>
    let (x, rest) ← readFraction negative significand left rest
    return (.float x, rest)
  | _, _, 'e' :: rest | _, _, 'E' :: rest =>
    let (x, rest) ← readExponent negative significand left rest
    return (.float x, rest)
  | _, _, rest =>
    if digits = ['0'] ∧ (rest.head?.any Char.isDigit) then .error .badNumber
    else if left = 0 then return (whole negative significand, rest)
    else return (.float (← scaled negative significand left), rest)

/-- Reads a literal. -/
def read : List Char → Except Fault (Literal × List Char)
  | '-' :: cs => readUnsigned true cs
  | cs => readUnsigned false cs

/-- The value of a literal. -/
def toJson : Literal → Json
  | .int i => .int i
  | .float x => .float x

/-- What a message calls the literal. -/
def found : Literal → Found
  | .int i => .int i
  | .float x => .float x

end Literal

end LiveFlags.Json
