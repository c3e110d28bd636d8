import LiveFlags.Json.Literal

/-!
# Reading JSON text

A `Reader` consumes a prefix of a text and yields a value, or stops at the first fault. Containers
nest at most `deepest` levels; `readValue` recurses on the number of levels still allowed, and the
loops over the items of one container are bounded by the length of the text that is left.

`Json.parse` reads a text that holds exactly one value.
-/

namespace LiveFlags.Json

/-- Consumes a prefix of a text and yields a value, or a fault. -/
abbrev Reader (α : Type) := StateT (List Char) (Except Fault) α

namespace Reader

def fail {α : Type} (fault : Fault) : Reader α :=
  fun _ => .error fault

/-- Runs a function that returns the rest of the text. -/
def lift {α : Type} (f : List Char → Except Fault (α × List Char)) : Reader α :=
  f

/-- The blanks between the tokens of a JSON text. -/
def isSpace (c : Char) : Bool :=
  c == ' ' || c == '\n' || c == '\t' || c == '\r'

/-- The next character after blanks, which are consumed; the character is not. -/
def peek : Reader (Option Char) :=
  fun cs =>
    let rest := cs.dropWhile isSpace
    .ok (rest.head?, rest)

/-- Consumes one character. -/
def advance : Reader Unit :=
  fun cs => .ok ((), cs.drop 1)

/-- Consumes exactly the given characters. -/
def word : List Char → Reader Unit
  | [] => pure ()
  | c :: cs => fun
    | [] => .error .endInValue
    | d :: rest => if d = c then word cs rest else .error .noWord

end Reader

open Reader

/-! ### Strings -/

/-- The value of a hexadecimal digit. -/
def hexValue? (c : Char) : Option Nat :=
  if c.isDigit then some (c.toNat - '0'.toNat)
  else if 'a' ≤ c ∧ c ≤ 'f' then some (c.toNat - 'a'.toNat + 10)
  else if 'A' ≤ c ∧ c ≤ 'F' then some (c.toNat - 'A'.toNat + 10)
  else none

/-- The value of four hexadecimal digits. -/
def hexQuad? (a b c d : Char) : Option Nat := do
  return (← hexValue? a) * 4096 + (← hexValue? b) * 256 + (← hexValue? c) * 16 + (← hexValue? d)

/-- The bytes that the characters take up. -/
def byteCount (cs : List Char) : Nat :=
  cs.foldl (fun bytes c => bytes + c.utf8Size) 0

/-- The four digits of a `\u` escape. A text that ends within the next four bytes has ended inside
the string. -/
def hexEscape (cs : List Char) : Except Fault (Nat × List Char) :=
  match cs with
  | a :: b :: c :: d :: rest =>
    match hexQuad? a b c d with
    | some n => .ok (n, rest)
    | none => .error .badEscape
  | cs => .error (if byteCount cs < 4 then .endInString else .badEscape)

/-- A character with one of the short escapes. -/
def shortEscape? : Char → Option Char
  | '"' => some '"'
  | '\\' => some '\\'
  | '/' => some '/'
  | 'b' => some (Char.ofNat 8)
  | 'f' => some (Char.ofNat 12)
  | 'n' => some '\n'
  | 'r' => some '\r'
  | 't' => some '\t'
  | _ => none

def isLeadingSurrogate (n : Nat) : Bool := 0xD800 ≤ n && n ≤ 0xDBFF

def isTrailingSurrogate (n : Nat) : Bool := 0xDC00 ≤ n && n ≤ 0xDFFF

/-- The character of a surrogate pair. -/
def surrogatePair (leading trailing : Nat) : Char :=
  Char.ofNat ((leading - 0xD800) * 0x400 + (trailing - 0xDC00) + 0x10000)

/-- Reads an escape after its backslash. -/
def readEscape (cs : List Char) : Except Fault (Char × List Char) :=
  match cs with
  | [] => .error .endInString
  | 'u' :: cs => do
    let (n, cs) ← hexEscape cs
    if isTrailingSurrogate n then .error .loneSurrogate
    else if isLeadingSurrogate n then
      match cs with
      | [] => .error .endInString
      | '\\' :: [] => .error .endInString
      | '\\' :: 'u' :: cs =>
        let (m, cs) ← hexEscape cs
        if isTrailingSurrogate m then .ok (surrogatePair n m, cs) else .error .loneSurrogate
      | _ => .error .endOfSurrogates
    else .ok (Char.ofNat n, cs)
  | c :: cs =>
    match shortEscape? c with
    | some d => .ok (d, cs)
    | none => .error .badEscape

/-- Reads a string after its opening quote; `fuel` bounds the number of characters. -/
def readStringBody : Nat → List Char → List Char → Except Fault (String × List Char)
  | 0, _, _ => .error .endInString
  | fuel + 1, read, cs =>
    match cs with
    | [] => .error .endInString
    | '"' :: rest => .ok (String.ofList read.reverse, rest)
    | '\\' :: rest => do
      let (c, rest) ← readEscape rest
      readStringBody fuel (c :: read) rest
    | c :: rest =>
      if c.toNat < 32 then .error .controlCharacter else readStringBody fuel (c :: read) rest

/-- Reads a string after its opening quote. -/
def readString : Reader String :=
  fun cs => readStringBody (cs.length + 1) [] cs

/-! ### Containers -/

/-- Most containers inside one another. -/
def deepest : Nat := 127

/-- Whether the list that is being read has a next item; consumes the separator before it, and
leaves the closing bracket. -/
def hasItem (first : Bool) : Reader Bool := do
  match ← peek with
  | none => fail .endInList
  | some ']' => return false
  | some c =>
    if first then return true
    else if c = ',' then
      advance
      match ← peek with
      | none => fail .endInValue
      | some ']' => fail .trailingComma
      | some _ => return true
    else fail .noListSeparator

/-- Consumes the closing bracket of a list. -/
def closeList : Reader Unit := do
  match ← peek with
  | none => fail .endInList
  | some ']' => advance
  | some ',' =>
    advance
    match ← peek with
    | some ']' => fail .trailingComma
    | _ => fail .trailingText
  | some _ => fail .trailingText

/-- Whether the object that is being read has a next member; consumes the separator before it, and
leaves the quote of its name or the closing brace. -/
def hasMember (first : Bool) : Reader Bool := do
  match ← peek with
  | none => fail .endInObject
  | some '}' => return false
  | some c =>
    if first then
      if c = '"' then return true else fail .memberNameNotString
    else if c = ',' then
      advance
      match ← peek with
      | none => fail .endInValue
      | some '"' => return true
      | some '}' => fail .trailingComma
      | some _ => fail .memberNameNotString
    else fail .noObjectSeparator

/-- Consumes the closing brace of an object. -/
def closeObject : Reader Unit := do
  match ← peek with
  | none => fail .endInObject
  | some '}' => advance
  | some ',' => fail .trailingComma
  | some _ => fail .trailingText

/-- Consumes the name of a member and the colon after it. -/
def memberName : Reader String := do
  advance
  let name ← readString
  match ← peek with
  | none => fail .endInObject
  | some ':' => advance; return name
  | some _ => fail .noColon

/-- Reads the items of a list after its opening bracket, without the closing one. -/
def readItems {α : Type} (item : Reader α) : Nat → Bool → List α → Reader (List α)
  | 0, _, _ => fail .endInList
  | fuel + 1, first, read => do
    if ← hasItem first then readItems item fuel false ((← item) :: read)
    else return read.reverse

/-- Reads the members of an object after its opening brace, without the closing one; each name and
what `member` reads for it goes into the accumulated result. -/
def readMembers {σ : Type} (member : String → σ → Reader σ) : Nat → Bool → σ → Reader σ
  | 0, _, _ => fail .endInObject
  | fuel + 1, first, acc => do
    if ← hasMember first then
      let name ← memberName
      readMembers member fuel false (← member name acc)
    else return acc

/-- A bound for the number of items left in the text. -/
def itemsLeft : Reader Nat :=
  fun cs => .ok (cs.length + 1, cs)

/-- Reads a whole list, of which the opening bracket is next. -/
def readList {α : Type} (item : Reader α) : Reader (List α) := do
  advance
  let items ← readItems item (← itemsLeft) true []
  closeList
  return items

/-- Reads a whole object, of which the opening brace is next. -/
def readObject {σ : Type} (member : String → σ → Reader σ) (start : σ) : Reader σ := do
  advance
  let result ← readMembers member (← itemsLeft) true start
  closeObject
  return result

/-- Reads any value; `depth` more containers may be opened. -/
def readValue (depth : Nat) : Reader Json := do
  match ← peek with
  | none => fail .endInValue
  | some 'n' => word ['n', 'u', 'l', 'l']; return .null
  | some 't' => word ['t', 'r', 'u', 'e']; return .bool true
  | some 'f' => word ['f', 'a', 'l', 's', 'e']; return .bool false
  | some '"' => advance; return .str (← readString)
  | some '[' =>
    match depth with
    | 0 => fail .tooDeep
    | depth + 1 => return .arr (← readList (readValue depth))
  | some '{' =>
    match depth with
    | 0 => fail .tooDeep
    | depth + 1 =>
      return .obj (← readObject
        (fun name members => return insertMember name (← readValue depth) members) [])
  | some c =>
    if c = '-' ∨ c.isDigit then return (← lift Literal.read).toJson else fail .noValue

/-- Checks that nothing but blanks is left. -/
def expectEnd : Reader Unit := do
  match ← peek with
  | none => return ()
  | some _ => fail .trailingText

/-- Runs a reader over a whole text. -/
def decode {α : Type} (reader : Reader α) (text : String) : Except Fault α :=
  match (do let value ← reader; expectEnd; return value : Reader α) text.toList with
  | .ok (value, _) => .ok value
  | .error fault => .error fault

/-- Reads a text that holds exactly one value. -/
def parse (text : String) : Except Fault Json :=
  decode (readValue deepest) text

end LiveFlags.Json
