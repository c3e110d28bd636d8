import LiveFlags.Number.Binary64
import LiveFlags.Time.Instant
import LiveFlags.Text.CharClass

/-!
# Dates and times as text

`Instant.parse` reads a date, a time of day and a zone offset in the form of RFC 3339 with some
liberties: blanks may stand before each number and each separator, a number may be shorter than its
field, the date and the time may be parted by a `T` or a blank, a year with a sign may have any
number of digits, and the zone may be written `UTC`. A sixtieth second is a leap second.
`Instant.text` writes the form with the zone `Z` and none, three, six or nine digits after the
second, whichever is the fewest that lose nothing.
-/

namespace LiveFlags

/-- Why a text is no date and time. -/
inductive TimeFault where
  /-- A field holds a number that its meaning does not allow. -/
  | outOfRange
  /-- The fields are fine one by one, but the instant is outside the supported years. -/
  | impossible
  | invalidCharacter
  | tooShort
  | trailingText
deriving DecidableEq, Repr

def TimeFault.message : TimeFault → String
  | .outOfRange => "input is out of range"
  | .impossible => "no possible date and time matching input"
  | .invalidCharacter => "input contains invalid characters"
  | .tooShort => "premature end of input"
  | .trailingText => "trailing input"

namespace Rfc3339

def skipBlanks (cs : List Char) : List Char :=
  cs.dropWhile isBlank

/-- The number that a list of digits writes. -/
def digitsValue (digits : List Char) : Nat :=
  digits.foldl (fun n c => 10 * n + (c.toNat - '0'.toNat)) 0

/-- One to `most` digits; no bound when `most` is `none`. -/
def number (most : Option Nat) (cs : List Char) : Except TimeFault (Nat × List Char) :=
  let window := match most with
    | some n => cs.take n
    | none => cs
  let digits := window.takeWhile Char.isDigit
  match cs with
  | [] => .error .tooShort
  | _ =>
    if digits.isEmpty then .error .invalidCharacter
    else if 2 ^ 63 ≤ digitsValue digits then .error .outOfRange
    else .ok (digitsValue digits, cs.drop digits.length)

/-- A number between two bounds. -/
def field (low high : Nat) (cs : List Char) : Except TimeFault (Nat × List Char) := do
  let (n, rest) ← number (some 2) (skipBlanks cs)
  if low ≤ n ∧ n ≤ high then .ok (n, rest) else .error .outOfRange

/-- A year: up to four digits, or any number of them after a sign. -/
def year (cs : List Char) : Except TimeFault (Int × List Char) := do
  let (y, rest) ← match skipBlanks cs with
    | '-' :: rest => (number none rest).map fun (n, rest) => (-(n : Int), rest)
    | '+' :: rest => (number none rest).map fun (n, rest) => ((n : Int), rest)
    | rest => (number (some 4) rest).map fun (n, rest) => ((n : Int), rest)
  if -2 ^ 31 ≤ y ∧ y < 2 ^ 31 then .ok (y, rest) else .error .outOfRange

/-- A separator, with blanks before it. -/
def separator (sep : Char) (cs : List Char) : Except TimeFault (List Char) :=
  match skipBlanks cs with
  | [] => .error .tooShort
  | c :: rest => if c = sep then .ok rest else .error .invalidCharacter

/-- The digits after a decimal point as nanoseconds; those after the ninth are skipped. -/
def fraction : List Char → Except TimeFault (Nat × List Char)
  | '.' :: cs => do
    let (n, rest) ← number (some 9) cs
    .ok (n * 10 ^ (9 - (cs.length - rest.length)), rest.dropWhile Char.isDigit)
  | cs => .ok (0, cs)

/-- Two digits of a zone offset, the first of them at most `top`. -/
def offsetDigits (top : Char) (cs : List Char) : Except TimeFault (Nat × List Char) :=
  match cs with
  | [] => .error .tooShort
  | [c] => .error (if c.utf8Size < 2 then .tooShort else .invalidCharacter)
  | a :: b :: rest =>
    if !a.isDigit ∨ !b.isDigit then .error .invalidCharacter
    else if top < a then .error .outOfRange
    else .ok (digitsValue [a, b], rest)

/-- A zone offset in seconds east of UTC. -/
def offset (cs : List Char) : Except TimeFault (Int × List Char) :=
  let signed (sign : Int) (rest : List Char) : Except TimeFault (Int × List Char) := do
    let (hours, rest) ← offsetDigits '9' rest
    let (minutes, rest) ← offsetDigits '5' (rest.dropWhile fun c => c == ':' || isBlank c)
    .ok (sign * (hours * 3600 + minutes * 60), rest)
  match cs with
  | [] => .error .tooShort
  | 'Z' :: rest | 'z' :: rest => .ok (0, rest)
  | '+' :: rest => signed 1 rest
  | '-' :: rest | '−' :: rest => signed (-1) rest
  | _ => .error .invalidCharacter

/-- A zone: `UTC` in any case, or an offset. -/
def zone (cs : List Char) : Except TimeFault (Int × List Char) :=
  match cs with
  | u :: t :: c :: rest =>
    if [u, t, c].map Char.toLower = ['u', 't', 'c'] then .ok (0, rest) else offset cs
  | _ => offset cs

end Rfc3339

open Rfc3339

/-- Reads a date and time with its zone. -/
def Instant.parse (s : String) : Except TimeFault Instant := do
  let (y, cs) ← year s.toList
  let cs ← separator '-' cs
  let (month, cs) ← field 1 12 cs
  let cs ← separator '-' cs
  let (day, cs) ← field 1 31 cs
  let cs ← match cs with
    | 'T' :: rest | 't' :: rest | ' ' :: rest => .ok rest
    | [] => .error .tooShort
    | _ => .error .invalidCharacter
  let (hour, cs) ← field 0 23 cs
  let cs ← separator ':' cs
  let (minute, cs) ← field 0 59 cs
  let cs ← separator ':' cs
  let (second, cs) ← field 0 60 cs
  let (nanos, cs) ← fraction cs
  let (east, cs) ← zone (skipBlanks cs)
  unless (skipBlanks cs).isEmpty do .error .trailingText
  unless Calendar.isDate y month day do .error .outOfRange
  unless east.natAbs < 86400 do .error .outOfRange
  let local_ := Calendar.daysFromDate y month day * Calendar.secondsPerDay +
    (hour * 3600 + minute * 60 + min second 59 : Nat)
  let t : Instant := ⟨local_ - east, nanos + (if second = 60 then 1000000000 else 0)⟩
  if t.isSupported then .ok t else .error .impossible

namespace Rfc3339

/-- A number with leading zeros up to a width. -/
def padded (width n : Nat) : String :=
  let digits := toString n
  String.ofList (List.replicate (width - digits.length) '0') ++ digits

/-- A year: four digits, or a sign and at least four outside of 0 to 9999. -/
def yearText (y : Int) : String :=
  if 0 ≤ y ∧ y ≤ 9999 then padded 4 y.toNat
  else (if y < 0 then "-" else "+") ++ padded 4 y.natAbs

/-- The digits after the second, in groups of three. -/
def fractionText (nanos : Nat) : String :=
  if nanos = 0 then ""
  else if nanos % 1000000 = 0 then "." ++ padded 3 (nanos / 1000000)
  else if nanos % 1000 = 0 then "." ++ padded 6 (nanos / 1000)
  else "." ++ padded 9 nanos

end Rfc3339

/-- The instant in UTC. -/
def Instant.text (t : Instant) : String :=
  let days := t.seconds.fdiv Calendar.secondsPerDay
  let (y, month, day) := Calendar.dateFromDays days
  let inDay := (t.seconds.fmod Calendar.secondsPerDay).toNat
  let leap := t.nanos / 1000000000
  yearText y ++ "-" ++ padded 2 month ++ "-" ++ padded 2 day ++ "T" ++ padded 2 (inDay / 3600) ++
    ":" ++ padded 2 (inDay / 60 % 60) ++ ":" ++ padded 2 (inDay % 60 + leap) ++
    fractionText (t.nanos % 1000000000) ++ "Z"

end LiveFlags
