import LiveFlags.Json.Basic
import LiveFlags.Number.Shortest

/-!
# Compact JSON text

`Json.text` writes a value without blanks, members in the order in which they stand. In a string
only the quote, the backslash and the control characters below U+0020 are escaped; five of these
have a short form. A floating-point number is written so that it reads back as one (`1.0`).
-/

namespace LiveFlags.Json

/-- A hexadecimal digit in lower case. -/
def hexDigit (n : Nat) : Char :=
  Nat.digitChar n

/-- How a character stands inside a quoted string. -/
def escapeChar (c : Char) : List Char :=
  match c with
  | '"' => ['\\', '"']
  | '\\' => ['\\', '\\']
  | '\n' => ['\\', 'n']
  | '\r' => ['\\', 'r']
  | '\t' => ['\\', 't']
  | c =>
    if c.toNat = 8 then ['\\', 'b']
    else if c.toNat = 12 then ['\\', 'f']
    else if c.toNat < 32 then
      ['\\', 'u', '0', '0', hexDigit (c.toNat / 16), hexDigit (c.toNat % 16)]
    else [c]

/-- A string between quotes. -/
def quote (s : String) : List Char :=
  '"' :: s.toList.flatMap escapeChar ++ ['"']

mutual

/-- The compact text of a value. -/
def chars : Json → List Char
  | .null => ['n', 'u', 'l', 'l']
  | .bool true => ['t', 'r', 'u', 'e']
  | .bool false => ['f', 'a', 'l', 's', 'e']
  | .int i => (toString i).toList
  | .float x => x.text.toList
  | .str s => quote s
  | .arr [] => ['[', ']']
  | .arr (x :: xs) => '[' :: chars x ++ itemsTail xs
  | .obj [] => ['{', '}']
  | .obj ((k, x) :: xs) => '{' :: quote k ++ ':' :: chars x ++ membersTail xs

/-- The items after the first one, and the closing bracket. -/
def itemsTail : List Json → List Char
  | [] => [']']
  | x :: xs => ',' :: chars x ++ itemsTail xs

/-- The members after the first one, and the closing brace. -/
def membersTail : List (String × Json) → List Char
  | [] => ['}']
  | (k, x) :: xs => ',' :: quote k ++ ':' :: chars x ++ membersTail xs

end

/-- The compact text of a value. -/
def text (value : Json) : String :=
  String.ofList value.chars

end LiveFlags.Json
