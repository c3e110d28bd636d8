import LiveFlags.Url.Domain

/-!
# Web addresses

`Url.parse` reads an absolute URL by the rules that browsers follow: blanks and control characters
around the text and line breaks inside it are dropped, a backslash counts as a slash in the schemes
of the web, any number of slashes may stand before the host there, and dot segments of a path are
resolved. `Url.text` writes the result in its normal form.
-/

namespace LiveFlags

open Url in
/-- An absolute URL. -/
structure Url where
  scheme : String
  user : String := ""
  password : String := ""
  host : Option Host := none
  port : Option Nat := none
  path : String := ""
  query : Option String := none
  fragment : Option String := none
deriving DecidableEq, Repr

namespace Url

/-! ### Classes of schemes and characters -/

/-- The schemes of the web that have a host, with their usual ports. -/
def usualPorts : List (String × Nat) :=
  [("http", 80), ("https", 443), ("ws", 80), ("wss", 443), ("ftp", 21)]

/-- Whether the rules for web addresses apply to the scheme. -/
def isSpecial (scheme : String) : Bool :=
  scheme == "file" || (usualPorts.lookup scheme).isSome

/-- Visible ASCII characters and the space, except for some. -/
def allBut (except : String) (c : Char) : Bool :=
  0x20 ≤ c.toNat && c.toNat < 0x7F && !except.toList.contains c

def keptInFragment : Char → Bool := allBut " \"<>`"
def keptInQuery : Char → Bool := allBut " \"#<>"
def keptInSpecialQuery : Char → Bool := allBut " \"#<>'"
def keptInPath : Char → Bool := allBut " \"#<>?`\x7b\x7d^"
def keptInUserInfo : Char → Bool := allBut " \"#<>?`\x7b\x7d^/:;=@[\\]|"
def keptInOpaque : Char → Bool := allBut ""

/-- Encodes what a part of a URL does not keep. -/
def encoded (keep : Char → Bool) (cs : List Char) : String :=
  String.ofList (Percent.encode keep cs)

/-- Characters that may not stand in the host of a scheme without rules of its own. -/
def isForbiddenInHost (c : Char) : Bool :=
  c.toNat = 0 || "\t\n\r #/:<>?@[\\]^|".toList.contains c

/-! ### Hosts and ports -/

/-- The host of a web address. -/
def webHost (cs : List Char) : Except Fault Host := do
  match cs with
  | '[' :: rest =>
    if rest.getLast? = some ']' then
      match Host.ipv6? rest.dropLast with
      | some groups => .ok (.ipv6 groups)
      | none => .error .badIpv6
    else .error .badIpv6
  | _ =>
    let text := Utf8.decode? (Percent.decode cs)
    let name ← match text.bind fun s => Domain.normalize? s.toList with
      | some name => pure name
      | none => .error .badDomainName
    if name.isEmpty then .error .emptyHost
    else if Host.endsInNumber name then
      match Host.ipv4? name with
      | some a => .ok (.ipv4 a)
      | none => .error .badIpv4
    else .ok (.domain (String.ofList name))

/-- The host of any other scheme. -/
def opaqueHost (cs : List Char) : Except Fault Host :=
  match cs with
  | '[' :: rest =>
    if rest.getLast? = some ']' then
      match Host.ipv6? rest.dropLast with
      | some groups => .ok (.ipv6 groups)
      | none => .error .badIpv6
    else .error .badIpv6
  | _ =>
    if cs.any isForbiddenInHost then .error .badDomainCharacter
    else .ok (.domain (encoded keptInOpaque cs))

/-- Whether a character ends the part of a URL that names user, host and port. -/
def endsAuthority (special : Bool) (c : Char) : Bool :=
  c == '/' || c == '?' || c == '#' || (special && c == '\\')

/-- Where the host ends: at a colon outside of brackets. -/
def hostLength : Bool → List Char → Nat
  | _, [] => 0
  | inBrackets, c :: cs =>
    if c = ':' ∧ !inBrackets then 0
    else hostLength (if c = '[' then true else if c = ']' then false else inBrackets) cs + 1

/-- The port after a host, `none` when it is the usual one or not given. -/
def readPort (scheme : String) (cs : List Char) : Except Fault (Option Nat) :=
  match Host.numeral? 10 cs with
  | some n =>
    if !cs.all Char.isDigit ∨ 65535 < n then .error .badPort
    else if cs.isEmpty ∨ usualPorts.lookup scheme = some n then .ok none
    else .ok (some n)
  | none => .error .badPort

/-- Splits user and password off at the last at sign; without user and password none is written. -/
def splitUser (authority : List Char) : Option (List Char × List Char) :=
  let parts := Host.splitAt '@' authority
  if parts.length < 2 then none
  else some (['@'].intercalate parts.dropLast, parts.getLast?.getD [])

/-- Reads user, password, host and port; `followed` tells whether a path, a query or a fragment
stands behind them. A user needs a host, and so does an at sign with something behind it. -/
def readAuthority (scheme : String) (authority : List Char) (followed : Bool) :
    Except Fault Url := do
  let special := isSpecial scheme
  let (userInfo, rest) := (splitUser authority).getD ([], authority)
  let user := userInfo.takeWhile (· != ':')
  let password := (userInfo.drop user.length).drop 1
  let named := !user.isEmpty || !password.isEmpty
  if rest.isEmpty ∧ (named ∨ (authority = ['@'] ∧ followed)) then .error .emptyHost
  let name := rest.take (hostLength false rest)
  let after := rest.drop name.length
  if name.isEmpty ∧ special then .error .emptyHost
  let host ← if special then webHost name else opaqueHost name
  if name.isEmpty ∧ !after.isEmpty then .error .emptyHost
  let port ← readPort scheme (after.drop 1)
  return { scheme, user := encoded keptInUserInfo user,
           password := encoded keptInUserInfo password, host := some host, port }

/-! ### Paths -/

/-- Whether a segment stays in place. -/
def isHere (segment : List Char) : Bool :=
  ([['.'], "%2e".toList]).contains (segment.map Char.toLower)

/-- Whether a segment goes up one level. -/
def isUp (segment : List Char) : Bool :=
  (["..".toList, ".%2e".toList, "%2e.".toList, "%2e%2e".toList]).contains
    (segment.map Char.toLower)

/-- Resolves dot segments: the segments in front, in reverse, and those still to go through. A dot
segment at the end leaves an empty one. -/
def resolveDots : List (List Char) → List (List Char) → List (List Char)
  | front, [] => front.reverse
  | front, s :: rest =>
    if isUp s then
      let front := front.drop 1
      if rest.isEmpty then ([] :: front).reverse else resolveDots front rest
    else if isHere s then
      if rest.isEmpty then ([] :: front).reverse else resolveDots front rest
    else resolveDots (s :: front) rest

/-- The normal form of a path that starts with a slash, or is empty. -/
def normalPath (special : Bool) (cs : List Char) : String :=
  let cs := if special then cs.map fun c => if c = '\\' then '/' else c else cs
  let cs := match cs with
    | '/' :: rest => some rest
    | [] => if special then some [] else none
    | rest => some rest
  match cs with
  | none => ""
  | some cs =>
    let segments := (Host.splitAt '/' cs).map fun s => Percent.encode keptInPath s
    String.ofList ((resolveDots [] segments).flatMap fun s => '/' :: s)

/-- Splits a text at the first occurrence of a character. -/
def cut (sep : Char) (cs : List Char) : List Char × Option (List Char) :=
  let before := cs.takeWhile (· != sep)
  if before.length < cs.length then (before, some (cs.drop (before.length + 1))) else (before, none)

/-- Adds path, query and fragment. -/
def withRest (url : Url) (path : List Char → String) (cs : List Char) : Url :=
  let (cs, fragment) := cut '#' cs
  let (cs, query) := cut '?' cs
  let kept := if isSpecial url.scheme then keptInSpecialQuery else keptInQuery
  { url with
    path := path cs
    query := query.map (encoded kept)
    fragment := fragment.map (encoded keptInFragment) }

/-! ### Whole URLs -/

/-- The text without blanks and controls around it and without tabs and line breaks. -/
def trimmed (s : String) : List Char :=
  let isEdge (c : Char) : Bool := c.toNat ≤ 0x20
  let inner := ((s.toList.dropWhile isEdge).reverse.dropWhile isEdge).reverse
  inner.filter fun c => !(c == '\t' || c == '\n' || c == '\r')

/-- The scheme before the first colon, in lower case, and the rest. -/
def splitScheme? (cs : List Char) : Option (String × List Char) :=
  match cut ':' cs with
  | (name, some rest) =>
    let plain (c : Char) : Bool := c.isAlphanum || c == '+' || c == '-' || c == '.'
    if name.head?.any Char.isAlpha && name.all plain then
      some (String.ofList (name.map Char.toLower), rest)
    else none
  | (_, none) => none

/-- Reads what follows two slashes. -/
def readHierarchy (scheme : String) (cs : List Char) : Except Fault Url := do
  let special := isSpecial scheme
  let authority := cs.takeWhile fun c => !endsAuthority special c
  let rest := cs.drop authority.length
  let url ← readAuthority scheme authority !rest.isEmpty
  return url.withRest (normalPath special) rest

/-- A letter and a colon or bar, as in the path of a local drive. -/
def isDrive (cs : List Char) : Bool :=
  match cs with
  | [a, b] => a.isAlpha && (b == ':' || b == '|')
  | _ => false

/-- Reads what follows the scheme of a local file. -/
def readFile (cs : List Char) : Except Fault Url := do
  let isSlash (c : Char) : Bool := c == '/' || c == '\\'
  match cs with
  | a :: b :: rest =>
    if isSlash a && isSlash b then
      let name := rest.takeWhile fun c => !endsAuthority true c
      let host ← if name.isEmpty ∨ isDrive name then pure none else
        match ← webHost name with
        | .domain "localhost" => pure none
        | host => pure (some host)
      let path := if isDrive name then rest else rest.drop name.length
      return withRest { scheme := "file", host } (normalPath true) path
    else return withRest { scheme := "file" } (normalPath true) cs
  | _ => return withRest { scheme := "file" } (normalPath true) cs

/-- Reads an absolute URL. -/
def parse (s : String) : Except Fault Url :=
  match splitScheme? (trimmed s) with
  | none => .error .relativeWithoutBase
  | some (scheme, rest) =>
    if scheme = "file" then readFile rest
    else if isSpecial scheme then
      readHierarchy scheme (rest.dropWhile fun c => c == '/' || c == '\\')
    else
      match rest with
      | '/' :: '/' :: rest => readHierarchy scheme rest
      | '/' :: _ => .ok (withRest { scheme } (normalPath false) rest)
      | _ => .ok (withRest { scheme } (encoded keptInOpaque) rest)

/-! ### Text -/

/-- The path and the query, as a request names them. -/
def target (url : Url) : String :=
  url.path ++ (url.query.map fun q => "?" ++ q).getD ""

/-- The URL in its normal form. -/
def text (url : Url) : String :=
  let userInfo :=
    if url.user.isEmpty ∧ url.password.isEmpty then ""
    else url.user ++ (if url.password.isEmpty then "" else ":" ++ url.password) ++ "@"
  let authority := match url.host with
    | some host =>
      "//" ++ userInfo ++ host.text ++ (url.port.map fun p => ":" ++ toString p).getD ""
    | none => if url.scheme = "file" then "//" else ""
  url.scheme ++ ":" ++ authority ++ url.target ++ (url.fragment.map fun f => "#" ++ f).getD ""

end Url

end LiveFlags
