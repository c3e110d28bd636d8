import LiveFlags.Text.Utf8

/-!
# Percent encoding

A byte that a context does not allow is written as a percent sign and two upper-case hexadecimal
digits. Decoding turns such triples back into bytes and leaves every other percent sign alone.
-/

namespace LiveFlags.Percent

/-- An upper-case hexadecimal digit. -/
def digit (n : Nat) : Char :=
  (Nat.digitChar n).toUpper

/-- The three characters that stand for a byte. -/
def encodeByte (b : UInt8) : List Char :=
  ['%', digit (b.toNat / 16), digit (b.toNat % 16)]

/-- Encodes the characters outside of ASCII and those for which `keep` does not hold. -/
def encode (keep : Char → Bool) (cs : List Char) : List Char :=
  cs.flatMap fun c =>
    if c.toNat < 128 && keep c then [c] else (Utf8.encodeChar c).flatMap encodeByte

/-- The value of a hexadecimal digit. -/
def value? (c : Char) : Option Nat :=
  if c.isDigit then some (c.toNat - '0'.toNat)
  else if 'a' ≤ c ∧ c ≤ 'f' then some (c.toNat - 'a'.toNat + 10)
  else if 'A' ≤ c ∧ c ≤ 'F' then some (c.toNat - 'A'.toNat + 10)
  else none

/-- The bytes of a text after decoding. -/
def decode : List Char → List UInt8
  | [] => []
  | '%' :: a :: b :: rest =>
    match value? a, value? b with
    | some x, some y => UInt8.ofNat (16 * x + y) :: decode rest
    | _, _ => 0x25 :: decode (a :: b :: rest)
  | c :: rest => Utf8.encodeChar c ++ decode rest

end LiveFlags.Percent
