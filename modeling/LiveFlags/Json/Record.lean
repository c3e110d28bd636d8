import LiveFlags.Json.Skip

/-!
# Reading typed values and records

Readers for one type each: a value of another kind is consumed and named in the fault. A record is
read from an object, whose unknown members are passed over and whose known members may not repeat,
or from an array of its fields in the order in which they are declared.
-/

namespace LiveFlags.Json

open Reader

/-- Consumes the next value as far as a message about it needs, and names it. -/
def foundNext : Reader Found := do
  match ← peek with
  | some 'n' => word ['n', 'u', 'l', 'l']; return .null
  | some 't' => word ['t', 'r', 'u', 'e']; return .bool true
  | some 'f' => word ['f', 'a', 'l', 's', 'e']; return .bool false
  | some '"' => advance; return .str (← readString)
  | some '[' => return .sequence
  | some '{' => return .map
  | some c => if c = '-' ∨ c.isDigit then return (← lift Literal.read).found else fail .noValue
  | none => fail .noValue

/-- Refuses the next value, since something else is wanted. -/
def refuse {α : Type} (wanted : String) : Reader α := do
  fail (.wrongType (← foundNext) wanted)

/-- The next character after blanks; a value has to follow. -/
def peekValue : Reader Char := do
  match ← peek with
  | none => fail .endInValue
  | some c => return c

def readBool : Reader Bool := do
  match ← peekValue with
  | 't' => word ['t', 'r', 'u', 'e']; return true
  | 'f' => word ['f', 'a', 'l', 's', 'e']; return false
  | _ => refuse "a boolean"

def readText (wanted : String) : Reader String := do
  match ← peekValue with
  | '"' => advance; readString
  | _ => refuse wanted

/-- A number that `accept` takes; `accept` returns nothing for one that is out of range. -/
def readWhole {α : Type} (wanted : String) (accept : Int → Option α) : Reader α := do
  let c ← peekValue
  if c = '-' ∨ c.isDigit then
    match ← lift Literal.read with
    | .int i =>
      match accept i with
      | some a => return a
      | none => fail (.wrongValue (.int i) wanted)
    | .float x => fail (.wrongType (.float x) wanted)
  else refuse wanted

/-- A natural number of the given number of bits. -/
def readUnsigned (bits : Nat) : Reader Nat :=
  readWhole ("u" ++ toString bits) fun i =>
    if 0 ≤ i ∧ i < 2 ^ bits then some i.toNat else none

/-- A 64-bit signed integer. -/
def readSigned : Reader Int :=
  readWhole "i64" fun i => if -2 ^ 63 ≤ i ∧ i < 2 ^ 63 then some i else none

/-- Milliseconds after the epoch. -/
def readTimestamp : Reader Instant := do
  let c ← peekValue
  let wanted := "a unix timestamp in milliseconds"
  if c = '-' ∨ c.isDigit then
    match ← lift Literal.read with
    | .int i =>
      match Instant.ofMillis? i with
      | some t => return t
      | none => fail (.noTimestamp i)
    | .float x => fail (.wrongType (.float x) wanted)
  else refuse wanted

/-- A date and time as a string. -/
def readTime : Reader Instant := do
  match Instant.parse (← readText "an RFC 3339 formatted date and time string") with
  | .ok t => return t
  | .error fault => fail (.badTime fault)

/-- A value or `null`. -/
def readOptional {α : Type} (reader : Reader α) : Reader (Option α) := do
  match ← peek with
  | some 'n' => word ['n', 'u', 'l', 'l']; return none
  | _ => return some (← reader)

/-- Runs a reader inside one more container. -/
def nested {α : Type} (depth : Nat) (reader : Nat → Reader α) : Reader α :=
  match depth with
  | 0 => fail .tooDeep
  | depth + 1 => reader depth

/-- An object whose member names are data. -/
def readMap {σ : Type} (depth : Nat) (member : Nat → String → σ → Reader σ) (start : σ) :
    Reader σ := do
  match ← peekValue with
  | '{' => nested depth fun depth => readObject (member depth) start
  | _ => refuse "a map"

/-- A list of which each item is read alike. -/
def readSequence {α : Type} (depth : Nat) (item : Nat → Reader α) : Reader (List α) := do
  match ← peekValue with
  | '[' => nested depth fun depth => readList (item depth)
  | _ => refuse "a sequence"

/-! ### Records -/

/-- One field of a record that is read into a draft of type `σ`. -/
structure Field (σ : Type) where
  name : String
  /-- Whether an object may leave the field out. -/
  optional : Bool
  /-- Whether a list of fields may end before this one. -/
  droppable : Bool
  isSet : σ → Bool
  read : Nat → σ → Reader σ

/-- A record: its name in messages and its fields in order. -/
structure Record (σ : Type) where
  name : String
  fields : List (Field σ)

namespace Record

variable {σ : Type}

/-- Reads one member of an object into the draft. -/
def readMember (record : Record σ) (depth : Nat) (name : String) (draft : σ) : Reader σ :=
  match record.fields.find? (·.name = name) with
  | some field => if field.isSet draft then fail (.repeatedField name) else field.read depth draft
  | none => do
    skipValue
    return draft

/-- The first field that an object has to have and that is not set. -/
def missing? (record : Record σ) (draft : σ) : Option String :=
  (record.fields.find? fun field => !field.optional && !field.isSet draft).map (·.name)

/-- Reads the fields from the items of a list. -/
def readFields (record : Record σ) (depth : Nat) : Nat → List (Field σ) → σ → Reader σ
  | _, [], draft => return draft
  | n, field :: fields, draft => do
    if ← hasItem (n = 0) then readFields record depth (n + 1) fields (← field.read depth draft)
    else if field.droppable then readFields record depth (n + 1) fields draft
    else
      fail (.wrongLength n
        ("struct " ++ record.name ++ " with " ++ toString record.fields.length ++ " elements"))

/-- Reads a record into an empty draft. -/
def read (record : Record σ) (depth : Nat) (empty : σ) : Reader σ := do
  match ← peekValue with
  | '[' => nested depth fun depth => do
    advance
    let draft ← record.readFields depth 0 record.fields empty
    closeList
    return draft
  | '{' => nested depth fun depth => do
    advance
    let draft ← readMembers (record.readMember depth) (← itemsLeft) true empty
    match record.missing? draft with
    | some name => fail (.missingField name)
    | none => closeObject; return draft
  | _ => refuse ("struct " ++ record.name)

end Record

/-- One of several names, written as a string or as an object with one member whose value is
`null`. -/
def readVariant {α : Type} (depth : Nat) (variants : List (String × α)) : Reader α := do
  let choose (name : String) : Reader α :=
    match variants.lookup name with
    | some value => return value
    | none => fail (.unknownVariant name (variants.map (·.1)))
  match ← peekValue with
  | '"' => advance; choose (← readString)
  | '{' => nested depth fun _ => do
    advance
    let value ← choose (← readText "variant identifier")
    match ← peek with
    | none => fail .endInObject
    | some ':' => advance
    | some _ => fail .noColon
    match ← peekValue with
    | 'n' => word ['n', 'u', 'l', 'l']
    | _ => refuse "unit"
    match ← peek with
    | some '}' => advance; return value
    | some _ => fail .noValue
    | none => fail .endInObject
  | _ => fail .noValue

end LiveFlags.Json
