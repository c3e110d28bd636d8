import LiveFlags.Text.Percent

/-!
# Hosts of web addresses

A host is an IPv6 address in brackets, an IPv4 address in any of its numeric spellings, or a domain
name. A name whose last label is a number has to be an IPv4 address.
-/

namespace LiveFlags.Url

/-- Why a text is no URL. -/
inductive Fault where
  | relativeWithoutBase
  | emptyHost
  | badPort
  | badIpv4
  | badIpv6
  | badDomainCharacter
  | badDomainName
deriving DecidableEq, Repr

def Fault.message : Fault → String
  | .relativeWithoutBase => "relative URL without a base"
  | .emptyHost => "empty host"
  | .badPort => "invalid port number"
  | .badIpv4 => "invalid IPv4 address"
  | .badIpv6 => "invalid IPv6 address"
  | .badDomainCharacter => "invalid domain character"
  | .badDomainName => "invalid international domain name"

/-- The host of a URL. -/
inductive Host where
  | domain (name : String)
  | ipv4 (address : Nat)
  | ipv6 (groups : List Nat)
deriving DecidableEq, Repr

namespace Host

/-- Splits at every occurrence of a separator. -/
def splitAt (sep : Char) (cs : List Char) : List (List Char) :=
  cs.splitOn sep

/-- The value of a numeral in the given base, if all its digits are of that base. -/
def numeral? (base : Nat) (cs : List Char) : Option Nat :=
  cs.foldlM (fun n c => do
    let d ← Percent.value? c
    if d < base then some (base * n + d) else none) 0

/-- A number of an IPv4 address: hexadecimal after `0x`, octal after `0`, otherwise decimal. -/
def ipv4Number? (cs : List Char) : Option Nat :=
  match cs with
  | [] => none
  | '0' :: 'x' :: rest | '0' :: 'X' :: rest => numeral? 16 rest
  | ['0'] => some 0
  | '0' :: rest => numeral? 8 rest
  | _ => numeral? 10 cs

/-- The labels of a name, without an empty one at its end. -/
def labels (name : List Char) : List (List Char) :=
  let parts := splitAt '.' name
  if parts.getLast? = some [] then parts.dropLast else parts

/-- Whether the last label is a number, so that the name has to be an address. -/
def endsInNumber (name : List Char) : Bool :=
  match (labels name).getLast? with
  | none => false
  | some last => (!last.isEmpty && last.all Char.isDigit) || (ipv4Number? last).isSome

/-- An IPv4 address of one to four numbers; the last one fills all the bytes that are left. -/
def ipv4? (name : List Char) : Option Nat := do
  let numbers ← (labels name).mapM ipv4Number?
  let last ← numbers.getLast?
  let front := numbers.dropLast
  if 3 < front.length ∨ 256 ^ (4 - front.length) ≤ last ∨ front.any (255 < ·) then none
  else some (front.foldr (fun n acc => acc / 256 + n * 256 ^ 3) 0 + last)

/-! ### IPv6 -/

/-- Four bytes in dotted decimals without leading zeros, as two groups. -/
def dottedTail? (cs : List Char) : Option (List Nat) := do
  let parts := splitAt '.' cs
  if parts.length ≠ 4 then none
  let numbers ← parts.mapM fun part =>
    if part.isEmpty ∨ 3 < part.length ∨ (part.head? = some '0' ∧ 1 < part.length) then none
    else
      match numeral? 10 part with
      | some n => if n ≤ 255 ∧ part.all Char.isDigit then some n else none
      | none => none
  match numbers with
  | [a, b, c, d] => some [a * 256 + b, c * 256 + d]
  | _ => none

/-- A group of one to four hexadecimal digits. -/
def group? (cs : List Char) : Option Nat :=
  if cs.isEmpty ∨ 4 < cs.length then none else numeral? 16 cs

/-- Groups between colons; the last one may be an IPv4 address. -/
def groups? : List (List Char) → Option (List Nat)
  | [] => some []
  | [last] => if last.contains '.' then dottedTail? last else (group? last).map ([·])
  | part :: parts => do return (← group? part) :: (← groups? parts)

/-- The places at which a text can be cut at a double colon: what stands before and after it. -/
def doubleColons : List Char → List Char → List (List Char × List Char)
  | _, [] => []
  | front, ':' :: ':' :: rest =>
    (front.reverse, rest) :: doubleColons (':' :: front) (':' :: rest)
  | front, c :: rest => doubleColons (c :: front) rest

/-- The groups of a side of a double colon, which may be empty. -/
def side? (cs : List Char) : Option (List Nat) :=
  if cs.isEmpty then some [] else groups? (splitAt ':' cs)

/-- The eight groups of an IPv6 address; one double colon may stand for a run of zeros. -/
def ipv6? (cs : List Char) : Option (List Nat) :=
  match doubleColons [] cs with
  | [] => do
    let groups ← groups? (splitAt ':' cs)
    if groups.length = 8 then some groups else none
  | [(before, after)] => do
    if before.contains '.' then none
    let front ← side? before
    let back ← side? after
    if front.length + back.length ≤ 7 then
      some (front ++ List.replicate (8 - front.length - back.length) 0 ++ back)
    else none
  | _ => none

/-! ### Text -/

/-- The longest run of at least two zero groups: where it starts and its length. -/
def zeroRun (groups : List Nat) : Option (Nat × Nat) :=
  let runs := (List.range groups.length).filterMap fun i =>
    let n := ((groups.drop i).takeWhile (· = 0)).length
    if 2 ≤ n then some (i, n) else none
  runs.foldl (fun best run => match best with
    | some b => if b.2 < run.2 then some run else some b
    | none => some run) none

/-- A group in lower-case hexadecimal. -/
def groupText (n : Nat) : String :=
  String.ofList (Nat.toDigits 16 n)

/-- The host as it stands in a URL. -/
def text : Host → String
  | .domain name => name
  | .ipv4 a =>
    String.intercalate "." ((List.range 4).map fun i => toString (a / 256 ^ (3 - i) % 256))
  | .ipv6 groups =>
    let joined (gs : List Nat) := String.intercalate ":" (gs.map groupText)
    match zeroRun groups with
    | some (i, n) => "[" ++ joined (groups.take i) ++ "::" ++ joined (groups.drop (i + n)) ++ "]"
    | none => "[" ++ joined groups ++ "]"

end Host

end LiveFlags.Url
