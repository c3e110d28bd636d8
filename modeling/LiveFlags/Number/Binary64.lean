/-!
# Double-precision numbers as exact naturals

A finite double is a sign and a whole number of *units* of `2^-1074`, the smallest positive
double. All arithmetic below is on those naturals, so a sum of digits, a product or a quotient is
exact until the single final rounding to the nearest double, ties to even. The encoding of
`m * 2^e` units with `m < 2^53` is the natural `e * 2^52 + m`, for subnormal and normal numbers
alike; a mantissa that rounds up to `2^53` carries into the exponent by the same formula.
-/

-- A power of naturals is the one of the core library, also where the powers of a monoid are known
-- and would be preferred.
attribute [instance (2000), default_instance 20000] instPowNat

namespace LiveFlags

/-- A double-precision number, by its bit pattern. -/
structure Binary64 where
  bits : UInt64
deriving DecidableEq, Repr, Inhabited

/-- `num / den` to the nearest whole number, a half going to the even neighbour. -/
def roundHalfEven (num den : Nat) : Nat :=
  let q := num / den
  let twice := 2 * (num % den)
  if twice < den ∨ (twice = den ∧ q % 2 = 0) then q else q + 1

/-- How many low bits of `n` do not fit into 53 significant ones. -/
def excessBits (n : Nat) : Nat :=
  n.log2 - 52

/-- The natural nearest to `n` that has at most 53 significant bits, ties to even. -/
def nearest53 (n : Nat) : Nat :=
  roundHalfEven n (2 ^ excessBits n) * 2 ^ excessBits n

namespace Binary64

/-- The bit that carries the sign. -/
def signBit : Nat := 2 ^ 63

/-- The bit pattern of infinity, less its sign. -/
def infinityBits : Nat := 2047 * 2 ^ 52

/-- One, in units. -/
def oneInUnits : Nat := 2 ^ 1074

/-- The bit pattern without its sign. -/
def magnitudeBits (x : Binary64) : Nat :=
  x.bits.toNat % signBit

def isNegative (x : Binary64) : Bool :=
  signBit ≤ x.bits.toNat

/-- The mantissa and the power of two that together count the units of a finite number. -/
def parts (x : Binary64) : Nat × Nat :=
  let biased := x.magnitudeBits / 2 ^ 52
  let fraction := x.magnitudeBits % 2 ^ 52
  if biased = 0 then (fraction, 0) else (2 ^ 52 + fraction, biased - 1)

/-- The magnitude of a finite number in units of `2^-1074`. -/
def units (x : Binary64) : Nat :=
  x.parts.1 * 2 ^ x.parts.2

/-- Two numbers are the same value: equal bits, or a zero of either sign twice. -/
def same (x y : Binary64) : Bool :=
  x = y || (x.magnitudeBits = 0 && y.magnitudeBits = 0)

/-- The bit pattern, less its sign, of the double nearest to `num / den` units. -/
def encodeUnits (num den : Nat) : Nat :=
  let e := excessBits (num / den)
  min (e * 2 ^ 52 + roundHalfEven num (den * 2 ^ e)) infinityBits

/-- The double of the given sign nearest to `num / den` units; infinity when it is too large. -/
def ofUnits (negative : Bool) (num den : Nat) : Binary64 :=
  ⟨UInt64.ofNat (encodeUnits num den + if negative then signBit else 0)⟩

/-- The double nearest to a whole number. -/
def ofNat (n : Nat) : Binary64 :=
  ofUnits false (n * oneInUnits) 1

/-- The double nearest to an integer. -/
def ofInt (i : Int) : Binary64 :=
  ofUnits (i < 0) (i.natAbs * oneInUnits) 1

def neg (x : Binary64) : Binary64 :=
  if x.isNegative then ⟨UInt64.ofNat x.magnitudeBits⟩
  else ⟨UInt64.ofNat (x.magnitudeBits + signBit)⟩

def isInfinite (x : Binary64) : Bool :=
  x.magnitudeBits = infinityBits

def isZero (x : Binary64) : Bool :=
  x.magnitudeBits = 0

/-- The rounded product of two non-negative finite numbers. -/
def mul (x y : Binary64) : Binary64 :=
  ofUnits false (x.units * y.units) oneInUnits

/-- The rounded quotient of a non-negative finite number by a positive one. -/
def div (x y : Binary64) : Binary64 :=
  ofUnits false (x.units * oneInUnits) y.units

/-- The integer part, toward zero. -/
def truncate (x : Binary64) : Int :=
  let whole : Nat := x.units / oneInUnits
  if x.isNegative then -(whole : Int) else whole

/-- The integer part held within the 64-bit signed range. -/
def toInt64Clamped (x : Binary64) : Int :=
  max (-2 ^ 63) (min x.truncate (2 ^ 63 - 1))

example : ofNat 1 = ⟨0x3ff0000000000000⟩ := by decide +kernel
example : ofNat 9007199254740993 = ⟨0x4340000000000000⟩ := by decide +kernel
example : div (ofNat 1) (ofNat 10) = ⟨0x3fb999999999999a⟩ := by decide +kernel

end Binary64

end LiveFlags
