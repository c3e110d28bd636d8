import LiveFlags.Json.Reader

/-!
# Skipping a JSON value

A member that a record does not know is passed over without being built. Skipping follows the same
grammar with three liberties: containers may nest to any depth, a `\u` escape needs four
hexadecimal digits but no partner, and the size of a number does not matter. The containers that
are open are kept in a list, innermost first.
-/

namespace LiveFlags.Json

open Reader

/-- A container that is open while its items are passed over. -/
inductive Container where
  | list
  | object
deriving DecidableEq, Repr

/-- Passes over a string after its opening quote. -/
def skipStringBody : Nat → List Char → Except Fault (Unit × List Char)
  | 0, _ => .error .endInString
  | fuel + 1, cs =>
    match cs with
    | [] => .error .endInString
    | '"' :: rest => .ok ((), rest)
    | ['\\'] => .error .endInString
    | '\\' :: 'u' :: rest => do
      let (_, rest) ← hexEscape rest
      skipStringBody fuel rest
    | '\\' :: c :: rest =>
      if (shortEscape? c).isSome then skipStringBody fuel rest else .error .badEscape
    | c :: rest => if c.toNat < 32 then .error .controlCharacter else skipStringBody fuel rest

/-- Passes over a string after its opening quote. -/
def skipString : Reader Unit :=
  fun cs => skipStringBody (cs.length + 1) cs

/-- At least one digit, all of which are consumed. -/
def skipDigits (cs : List Char) : Except Fault (List Char) :=
  match cs.takeWhile Char.isDigit with
  | [] => .error .badNumber
  | _ => .ok (cs.dropWhile Char.isDigit)

/-- Passes over an exponent, if there is one. -/
def skipExponent (cs : List Char) : Except Fault (Unit × List Char) := do
  match cs with
  | 'e' :: rest | 'E' :: rest =>
    let rest := match rest with
      | '+' :: rest | '-' :: rest => rest
      | _ => rest
    return ((), ← skipDigits rest)
  | _ => return ((), cs)

/-- Passes over a number without its sign. -/
def skipNumber : Reader Unit :=
  fun cs => do
    let rest ← match cs with
      | '0' :: rest => if rest.head?.any Char.isDigit then .error .badNumber else .ok rest
      | _ => skipDigits cs
    match rest with
    | '.' :: rest => skipExponent (← skipDigits rest)
    | _ => skipExponent rest

/-- Passes over the name of a member and the colon after it. -/
def skipName : Reader Unit := do
  match ← peek with
  | some '"' => advance
  | some _ => fail .memberNameNotString
  | none => fail .endInObject
  skipString
  match ← peek with
  | some ':' => advance
  | some _ => fail .noColon
  | none => fail .endInObject

/-- Closes containers after a value, or before a first one when `filled` is false, up to the place
of a next value; `none` when the outermost container has been closed. -/
def closeContainers : Nat → Bool → List Container → Reader (Option (List Container))
  | 0, _, _ => fail .endInValue
  | _, _, [] => return none
  | fuel + 1, filled, open_@(frame :: outer) => do
    match ← peek, frame with
    | some ',', _ => if filled then advance; return some open_ else return some open_
    | some ']', .list => advance; closeContainers fuel true outer
    | some '}', .object => advance; closeContainers fuel true outer
    | some _, .list => if filled then fail .noListSeparator else return some open_
    | some _, .object => if filled then fail .noObjectSeparator else return some open_
    | none, .list => fail .endInList
    | none, .object => fail .endInObject

/-- Passes over values until the outermost container is closed. -/
def skipWithin : Nat → List Container → Reader Unit
  | 0, _ => fail .endInValue
  | fuel + 1, open_ => do
    let (filled, open_) ← (do
      match ← peek with
      | none => fail .endInValue
      | some 'n' => word ['n', 'u', 'l', 'l']; return (true, open_)
      | some 't' => word ['t', 'r', 'u', 'e']; return (true, open_)
      | some 'f' => word ['f', 'a', 'l', 's', 'e']; return (true, open_)
      | some '"' => advance; skipString; return (true, open_)
      | some '-' => advance; skipNumber; return (true, open_)
      | some '[' => advance; return (false, .list :: open_)
      | some '{' => advance; return (false, .object :: open_)
      | some c => if c.isDigit then skipNumber; return (true, open_) else fail .noValue)
    match ← closeContainers (open_.length + 1) filled open_ with
    | none => return ()
    | some open_ =>
      if open_.head? = some .object then skipName
      skipWithin fuel open_

/-- Passes over one value. -/
def skipValue : Reader Unit := do
  skipWithin (← itemsLeft) []

end LiveFlags.Json
