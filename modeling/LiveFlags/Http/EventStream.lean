import LiveFlags.Source.Event

/-!
# The text of an event stream

A stream of server-sent events is a text of lines. A line ends with a line feed, a return or both,
and a blank line ends a message. `Message.ofText` reads all the messages of a text that have ended:
neither an unfinished line nor an unfinished message counts, and a message without a `data` line is
passed over.

`StreamEvent.ofText` reads the messages as events.
-/

namespace LiveFlags

/-- A message of an event stream. -/
structure Message where
  name : String
  data : String
deriving DecidableEq, Repr

namespace Message

/-! ### Lines -/

/-- The lines of a text that have ended; `line` holds what is read of the first one, in reverse. A
return at the end of the text may be the first half of a line end, so its line has not ended. -/
def linesFrom (line : List Char) : List Char → List (List Char)
  | [] => []
  | ['\r'] => []
  | '\r' :: '\n' :: rest => line.reverse :: linesFrom [] rest
  | c :: rest =>
    if c = '\r' ∨ c = '\n' then line.reverse :: linesFrom [] rest else linesFrom (c :: line) rest

/-- The lines of a text that have ended. -/
def lines (text : List Char) : List (List Char) :=
  linesFrom [] text

/-- What a line says. -/
inductive Line where
  | blank
  | comment
  | field (name value : String)
deriving DecidableEq, Repr

/-- One space after the colon of a field belongs to neither side. -/
def Line.ofChars (line : List Char) : Line :=
  let name := line.takeWhile (· != ':')
  let value := match line.drop (name.length + 1) with
    | ' ' :: value => value
    | value => value
  if line = [] then .blank
  else if name = [] then .comment
  else .field (String.ofList name) (String.ofList value)

/-! ### Messages -/

/-- A message that has not ended: its name so far and its lines of data, oldest first. -/
structure Draft where
  name : String := ""
  data : List String := []
deriving DecidableEq, Repr

namespace Draft

/-- A field of the message. The last name counts, and names of other fields have no meaning. -/
def add (draft : Draft) (name value : String) : Draft :=
  if name = "event" then { draft with name := value }
  else if name = "data" then { draft with data := draft.data ++ [value] }
  else draft

/-- The message that ends here, if it has data. -/
def finish? (draft : Draft) : Option Message :=
  if draft.data = [] then none
  else some {
    name := if draft.name = "" then "message" else draft.name
    data := "\n".intercalate draft.data }

end Draft

/-- The messages that end in a list of lines. -/
def ofLines : Draft → List Line → List Message
  | _, [] => []
  | draft, .comment :: lines => ofLines draft lines
  | draft, .field name value :: lines => ofLines (draft.add name value) lines
  | draft, .blank :: lines => draft.finish?.toList ++ ofLines {} lines

/-- The messages of a text that have ended. A byte order mark in front is no part of the text. -/
def ofText (text : List Char) : List Message :=
  let text := match text with
    | '\uFEFF' :: text => text
    | text => text
  ofLines {} ((lines text).map Line.ofChars)

end Message

namespace StreamEvent

/-- The event that a message carries or the fault of its payload. -/
def ofMessage? (m : Message) : Option (Except SourceError StreamEvent) :=
  match parse m.name m.data with
  | .ok event => event.map .ok
  | .error fault => some (.error fault)

/-- The events of a text, with an error in place of each that cannot be read. -/
def ofText (text : List Char) : List (Except SourceError StreamEvent) :=
  (Message.ofText text).filterMap ofMessage?

end StreamEvent

end LiveFlags
