import LiveFlags.Number.Shortest
import LiveFlags.Text.Quoted
import LiveFlags.Time.Rfc3339

/-!
# Why a JSON text is refused

`Json.Fault` lists the causes: faults of the text itself, and values of a kind that the reader at
that place does not take. `Fault.message` is their wording. Where a text has several faults, the
one met first from the left is reported.
-/

namespace LiveFlags.Json

/-- What a reader met in place of the value it wanted. -/
inductive Found where
  | null
  | bool (value : Bool)
  | int (value : Int)
  | float (value : Binary64)
  | str (value : String)
  | sequence
  | map
deriving DecidableEq, Repr

def Found.message : Found → String
  | .null => "null"
  | .bool b => "boolean `" ++ (if b then "true" else "false") ++ "`"
  | .int i => "integer `" ++ toString i ++ "`"
  | .float x => "floating point `" ++ x.text ++ "`"
  | .str s => "string " ++ Text.quoted s
  | .sequence => "sequence"
  | .map => "map"

/-- The cause of a refusal. -/
inductive Fault where
  | endInList
  | endInObject
  | endInString
  | endInValue
  | noColon
  | noListSeparator
  | noObjectSeparator
  | noWord
  | noValue
  | badEscape
  | badNumber
  | numberTooLarge
  | controlCharacter
  | memberNameNotString
  /-- A trailing surrogate without a leading one, or a leading one before something else. -/
  | loneSurrogate
  /-- A leading surrogate without a further escape. -/
  | endOfSurrogates
  | trailingComma
  | trailingText
  | tooDeep
  | wrongType (found : Found) (wanted : String)
  | wrongValue (found : Found) (wanted : String)
  | wrongLength (length : Nat) (wanted : String)
  | missingField (name : String)
  | repeatedField (name : String)
  | unknownVariant (name : String) (known : List String)
  | noTimestamp (value : Int)
  | badTime (fault : TimeFault)
deriving DecidableEq, Repr

/-- A name between backquotes. -/
def named (name : String) : String :=
  "`" ++ name ++ "`"

/-- The choice between several names. -/
def oneOf : List String → String
  | [a] => named a
  | [a, b] => named a ++ " or " ++ named b
  | names => "one of " ++ String.intercalate ", " (names.map named)

def Fault.message : Fault → String
  | .endInList => "EOF while parsing a list"
  | .endInObject => "EOF while parsing an object"
  | .endInString => "EOF while parsing a string"
  | .endInValue => "EOF while parsing a value"
  | .noColon => "expected `:`"
  | .noListSeparator => "expected `,` or `]`"
  | .noObjectSeparator => "expected `,` or `\x7d`"
  | .noWord => "expected ident"
  | .noValue => "expected value"
  | .badEscape => "invalid escape"
  | .badNumber => "invalid number"
  | .numberTooLarge => "number out of range"
  | .controlCharacter => "control character (\\u0000-\\u001F) found while parsing a string"
  | .memberNameNotString => "key must be a string"
  | .loneSurrogate => "lone leading surrogate in hex escape"
  | .endOfSurrogates => "unexpected end of hex escape"
  | .trailingComma => "trailing comma"
  | .trailingText => "trailing characters"
  | .tooDeep => "recursion limit exceeded"
  | .wrongType found wanted => "invalid type: " ++ found.message ++ ", expected " ++ wanted
  | .wrongValue found wanted => "invalid value: " ++ found.message ++ ", expected " ++ wanted
  | .wrongLength n wanted => "invalid length " ++ toString n ++ ", expected " ++ wanted
  | .missingField name => "missing field " ++ named name
  | .repeatedField name => "duplicate field " ++ named name
  | .unknownVariant name known =>
    "unknown variant " ++ named name ++ ", expected " ++ oneOf known
  | .noTimestamp value => "value is not a legal timestamp: " ++ toString value
  | .badTime fault => fault.message

end LiveFlags.Json
