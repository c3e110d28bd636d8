import LiveFlags.Number.Binary64

/-!
# The shortest decimal that reads back as a given double

The reals that round to a finite double form an interval around it, with its ends included exactly
when the mantissa is even. `shortestDecimal` looks at the decimal grids of 1, 2, … 17 digits in
turn: the first grid with a point in the interval wins, of two points the nearer one, and of two
equally near ones the even one. Only the two grid neighbours of the value have to be looked at,
because a grid point in the interval has one of them between itself and the value.

`Binary64.text` writes such a decimal: with a decimal point as long as that needs at most sixteen
digits before it or four zeros after it, and with an exponent otherwise.
-/

namespace LiveFlags

/-- The decimal `digits * 10 ^ exponent`. -/
structure Decimal where
  digits : Nat
  exponent : Int
deriving DecidableEq, Repr

/-- Number of decimal digits of `n`; one for zero. -/
def decimalLength (n : Nat) : Nat :=
  (Nat.toDigits 10 n).length

namespace Binary64

/-- The interval of magnitudes that round to `x`, in quarters of a unit: its lower end, the value,
its upper end. Below a power of two the gap to the next smaller number is halved. -/
def roundingInterval (x : Binary64) : Nat × Nat × Nat :=
  let (m, e) := x.parts
  let below := if m = 2 ^ 52 ∧ 0 < e then 1 else 2
  ((4 * m - below) * 2 ^ e, 4 * m * 2 ^ e, (4 * m + 2) * 2 ^ e)

/-- Quarters of a unit in one. -/
def oneInQuarters : Nat := 4 * oneInUnits

/-- The number of digits before the decimal point of `quarters`; zero or less below one tenth. -/
def leadingPlaces (quarters : Nat) : Int :=
  if oneInQuarters ≤ quarters then decimalLength (quarters / oneInQuarters)
  else 1 - (decimalLength ((oneInQuarters - 1) / quarters) : Int)

/-- A point `d * 10 ^ k` of a decimal grid as a quotient of naturals in quarters of a unit. -/
def gridPoint (d : Nat) (k : Int) : Nat × Nat :=
  if 0 ≤ k then (d * 10 ^ k.toNat * oneInQuarters, 1) else (d * oneInQuarters, 10 ^ (-k).toNat)

/-- Whether a grid point rounds to `x`. -/
def roundsHere (x : Binary64) (d : Nat) (k : Int) : Bool :=
  let (lo, _, hi) := x.roundingInterval
  let (num, den) := gridPoint d k
  if x.parts.1 % 2 = 0 then lo * den ≤ num && num ≤ hi * den else lo * den < num && num < hi * den

/-- How far a grid point lies from `x`, scaled by the denominator of its grid. -/
def distance (x : Binary64) (d : Nat) (k : Int) : Nat :=
  let (_, v, _) := x.roundingInterval
  let (num, den) := gridPoint d k
  (num - v * den) + (v * den - num)

/-- The better of the two neighbours of `x` on the grid `10 ^ k`, if one of them rounds to `x`. -/
def onGrid? (x : Binary64) (k : Int) : Option Decimal :=
  let (_, v, _) := x.roundingInterval
  let low :=
    if 0 ≤ k then v / (10 ^ k.toNat * oneInQuarters) else v * 10 ^ (-k).toNat / oneInQuarters
  let high := low + 1
  match x.roundsHere low k, x.roundsHere high k with
  | false, false => none
  | true, false => some ⟨low, k⟩
  | false, true => some ⟨high, k⟩
  | true, true =>
    let dl := x.distance low k
    let dh := x.distance high k
    if dl < dh ∨ (dl = dh ∧ low % 2 = 0) then some ⟨low, k⟩ else some ⟨high, k⟩

/-- The shortest decimal that reads back as a finite, non-zero `x`. -/
def shortestDecimal (x : Binary64) : Decimal :=
  let places := leadingPlaces x.roundingInterval.2.1
  ((List.range 17).findSome? fun n : Nat => x.onGrid? (places - (n + 1 : Nat))).getD ⟨0, 0⟩

/-- Moves trailing zeros of the digits into the exponent. -/
def stripZeros : Nat → Decimal → Decimal
  | 0, d => d
  | fuel + 1, d =>
    if d.digits ≠ 0 ∧ d.digits % 10 = 0 then stripZeros fuel ⟨d.digits / 10, d.exponent + 1⟩ else d

/-- Largest number of digits before the point that is still written without an exponent. -/
def mostLeadingDigits : Int := 16

/-- Largest number of zeros after the point that is still written without an exponent. -/
def mostLeadingZeros : Int := 4

/-- `count` zeros. -/
def zeros (count : Int) : String :=
  String.ofList (List.replicate count.toNat '0')

/-- The text of a decimal whose digits have no trailing zero. -/
def decimalText (d : Decimal) : String :=
  let digits := toString d.digits
  let point := digits.length + d.exponent
  if 0 ≤ d.exponent ∧ point ≤ mostLeadingDigits then digits ++ zeros d.exponent ++ ".0"
  else if 0 < point ∧ point ≤ mostLeadingDigits then
    (digits.take point.toNat).copy ++ "." ++ (digits.drop point.toNat).copy
  else if -mostLeadingZeros ≤ point ∧ point ≤ 0 then "0." ++ zeros (-point) ++ digits
  else
    let mantissa := if digits.length = 1 then digits
      else (digits.take 1).copy ++ "." ++ (digits.drop 1).copy
    let scale := point - 1
    mantissa ++ "e" ++ (if 0 ≤ scale then "+" else "-") ++ toString scale.natAbs

/-- The text of a finite double: its shortest decimal, and a sign also before a negative zero. -/
def text (x : Binary64) : String :=
  let sign := if x.isNegative then "-" else ""
  if x.isZero then sign ++ "0.0"
  else sign ++ decimalText (stripZeros 20 x.shortestDecimal)

end Binary64

end LiveFlags
