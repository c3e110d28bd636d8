import LiveFlags.Text.Percent

/-!
# File names for keys

Any text can be a key, but not every text is safe as the name of a file. `FileName.encode` keeps
letters, digits and `*`, `-`, `.`, `_`, writes a blank as a plus sign and every other byte as a
percent triple. The two names that mean a directory and its parent are written with triples
altogether. A suffix keeps the files of keys apart from other files beside them.
-/

namespace LiveFlags.FileName

/-- The characters that stand for themselves. -/
def isPlain (c : Char) : Bool :=
  c.isAlphanum || c == '*' || c == '-' || c == '.' || c == '_'

/-- Percent encoding with a plus sign for a blank. -/
def encodeChars (name : List Char) : List Char :=
  name.flatMap fun c => if c = ' ' then ['+'] else Percent.encode isPlain [c]

/-- A safe file name for a text. -/
def encode (name : String) : String :=
  match String.ofList (encodeChars name.toList) with
  | "." => "%2E"
  | ".." => "%2E%2E"
  | encoded => encoded

/-- The file of a key. -/
def ofKey (key : String) : String :=
  encode key ++ ".data"

/-- The file in which a new content is prepared before it takes the place of the old one. -/
def temporary (name : String) : String :=
  name ++ ".tmp"

/-- The file that is locked while a namespace is written. -/
def lock : String := ".lock"

end LiveFlags.FileName
