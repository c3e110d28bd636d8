/-!
# Names of other scripts in ASCII

Punycode writes a name of any script with ASCII letters and digits: first the ASCII characters of
the name and a hyphen, then for each other character, in the order of their codes, how many steps
it is away from the one before it. A step moves one place to the right or, from the last place, to
the next code. The distances are numerals of variable length whose digits go up to 35.
-/

namespace LiveFlags.Url.Punycode

/-- The value of a digit: the letters first, then the decimal digits. -/
def digit? (c : Char) : Option Nat :=
  if 'a' ≤ c ∧ c ≤ 'z' then some (c.toNat - 'a'.toNat)
  else if '0' ≤ c ∧ c ≤ '9' then some (26 + (c.toNat - '0'.toNat))
  else none

/-- A digit below the threshold of its place ends a numeral. -/
def threshold (place bias : Nat) : Nat :=
  min 26 (max 1 (place - bias))

/-- Divides by 35 until the distance is small, and counts 36 for each division. -/
def shrink (distance counted : Nat) : Nat × Nat :=
  if 455 < distance then shrink (distance / 35) (counted + 36) else (distance, counted)
termination_by distance

/-- The bias for the next numeral, after a distance in a name that is `length` long by now. -/
def adapted (distance length : Nat) (isFirst : Bool) : Nat :=
  let scaled := if isFirst then distance / 700 else distance / 2
  let (rest, counted) := shrink (scaled + scaled / length) 0
  counted + 36 * rest / (rest + 38)

/-- What is read so far. -/
structure State where
  name : List Char
  code : Nat := 128
  /-- Where the walk stands, and where it stood before the numeral that is being read. -/
  index : Nat := 0
  start : Nat := 0
  weight : Nat := 1
  place : Nat := 36
  bias : Nat := 72

/-- Whether a number is the code of a character. -/
def isCode (n : Nat) : Bool :=
  n.isValidChar

/-- Reads one digit; the last one of a numeral puts a character into the name. -/
def State.step (s : State) (c : Char) : Option State := do
  let digit ← digit? c
  let index := s.index + digit * s.weight
  let threshold := threshold s.place s.bias
  if threshold ≤ digit then
    return { s with index, weight := s.weight * (36 - threshold), place := s.place + 36 }
  let length := s.name.length + 1
  let code := s.code + index / length
  if isCode code then
    return {
      name := s.name.insertIdx (index % length) (Char.ofNat code)
      code
      index := index % length + 1
      start := index % length + 1
      bias := adapted (index - s.start) length (s.start = 0) }
  none

/-- The ASCII characters of the name and the digits behind the last hyphen. A hyphen in front of
everything ends nothing. -/
def split (cs : List Char) : List Char × List Char :=
  let digits := (cs.reverse.takeWhile (· != '-')).reverse
  let front := cs.take (cs.length - digits.length)
  if front.length < 2 then ([], cs) else (front.dropLast, digits)

/-- The name that a text stands for. -/
def decode? (cs : List Char) : Option (List Char) := do
  let (ascii, digits) := split cs
  let state ← digits.foldlM State.step { name := ascii }
  if state.weight = 1 then some state.name else none

end LiveFlags.Url.Punycode
