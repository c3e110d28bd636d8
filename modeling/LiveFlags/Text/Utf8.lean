import LiveFlags.Number.Binary64

/-!
# UTF-8

Bytes of characters and back. A stretch of bytes that is no character is measured the way the
standard recommends: as the longest start of a well-formed sequence, and one byte where there is no
such start. `Utf8.lossy` puts U+FFFD in the place of each such stretch.
-/

namespace LiveFlags.Utf8

/-- The bytes of a character. -/
def encodeChar (c : Char) : List UInt8 :=
  let n := c.toNat
  let tail (k : Nat) : UInt8 := UInt8.ofNat (0x80 + n / 64 ^ k % 64)
  if n < 0x80 then [UInt8.ofNat n]
  else if n < 0x800 then [UInt8.ofNat (0xC0 + n / 64), tail 0]
  else if n < 0x10000 then [UInt8.ofNat (0xE0 + n / 4096), tail 1, tail 0]
  else [UInt8.ofNat (0xF0 + n / 262144), tail 2, tail 1, tail 0]

/-- The bytes of a text. -/
def encode (cs : List Char) : List UInt8 :=
  cs.flatMap encodeChar

/-- What stands at the start of a list of bytes. -/
inductive Head where
  | none
  | char (c : Char) (rest : List UInt8)
  /-- A stretch of the given length that is no character. -/
  | invalid (length : Nat) (rest : List UInt8)
  /-- The start of a character whose other bytes are missing. -/
  | incomplete

/-- A byte that continues a character. -/
def isTail (b : UInt8) : Bool :=
  0x80 ≤ b && b ≤ 0xBF

/-- How many bytes follow a first byte, and the range of the second one. -/
def announced (b : UInt8) : Option (Nat × UInt8 × UInt8) :=
  if 0xC2 ≤ b && b ≤ 0xDF then some (1, 0x80, 0xBF)
  else if b = 0xE0 then some (2, 0xA0, 0xBF)
  else if b = 0xED then some (2, 0x80, 0x9F)
  else if 0xE1 ≤ b && b ≤ 0xEF then some (2, 0x80, 0xBF)
  else if b = 0xF0 then some (3, 0x90, 0xBF)
  else if b = 0xF4 then some (3, 0x80, 0x8F)
  else if 0xF1 ≤ b && b ≤ 0xF3 then some (3, 0x80, 0xBF)
  else none

/-- Collects the bytes after the second one; `seen` bytes and the value `n` are there already. -/
def continued : Nat → Nat → Nat → List UInt8 → Head
  | 0, _, n, bytes => .char (Char.ofNat n) bytes
  | _ + 1, _, _, [] => .incomplete
  | k + 1, seen, n, b :: bytes =>
    if isTail b then continued k (seen + 1) (n * 64 + b.toNat % 64) bytes
    else .invalid seen (b :: bytes)

/-- The first character, or what stands in its place. -/
def head (bytes : List UInt8) : Head :=
  match bytes with
  | [] => .none
  | b :: rest =>
    if b < 0x80 then .char (Char.ofNat b.toNat) rest
    else
      match announced b, rest with
      | Option.none, _ => .invalid 1 rest
      | some _, [] => .incomplete
      | some (count, low, high), c :: rest =>
        if low ≤ c && c ≤ high then
          continued (count - 1) 2 (b.toNat % 2 ^ (6 - count) * 64 + c.toNat % 64) rest
        else .invalid 1 (c :: rest)

/-- Why a list of bytes is no text. -/
inductive Fault where
  | invalid (length : Nat)
  | incomplete
deriving DecidableEq, Repr

/-- The longest start of the bytes that is a text, and the fault behind it. -/
def scan : Nat → List UInt8 → List Char → List Char × Option Fault
  | 0, _, read => (read.reverse, none)
  | fuel + 1, bytes, read =>
    match head bytes with
    | .none => (read.reverse, none)
    | .char c rest => scan fuel rest (c :: read)
    | .invalid length _ => (read.reverse, some (.invalid length))
    | .incomplete => (read.reverse, some .incomplete)

/-- The longest start of the bytes that is a text, and the fault behind it. -/
def validPart (bytes : List UInt8) : List Char × Option Fault :=
  scan (bytes.length + 1) bytes []

/-- The text of the bytes, if they are one. -/
def decode? (bytes : List UInt8) : Option String :=
  match validPart bytes with
  | (cs, none) => some (String.ofList cs)
  | (_, some _) => none

/-- Decodes with U+FFFD for every stretch that is no character. -/
def lossyFrom : Nat → List UInt8 → List Char
  | 0, _ => []
  | fuel + 1, bytes =>
    match head bytes with
    | .none => []
    | .char c rest => c :: lossyFrom fuel rest
    | .invalid _ rest => '\uFFFD' :: lossyFrom fuel rest
    | .incomplete => ['\uFFFD']

/-- Decodes with U+FFFD for every stretch that is no character. -/
def lossy (bytes : List UInt8) : String :=
  String.ofList (lossyFrom (bytes.length + 1) bytes)

end LiveFlags.Utf8
