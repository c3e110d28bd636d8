import LiveFlags.Redaction.Pattern

/-!
# What is removed from messages

Messages of data sources reach the connection status, which applications log and display. Before a
message is kept, five kinds of secrets are taken out of it, one kind after another: the user and
the password of a web address, a bearer token, a mobile key of eight or more characters, an IPv4
address and an e-mail address.
-/

namespace LiveFlags.Redaction

open Pattern

/-- A kind of secret and what is written in its place. -/
structure Rule where
  pattern : Pattern
  substitute : List Char → List Char

/-- Writes a fixed text whatever was matched. -/
def constantly (s : String) : List Char → List Char :=
  fun _ => s.toList

/-- A letter or a digit of ASCII. -/
def isPlain (c : Char) : Bool :=
  c.isAlphanum

/-- A letter outside of ASCII that is an ASCII letter when case is ignored: the long s and the
Kelvin sign. -/
def foldsToPlain (c : Char) : Bool :=
  c == 'ſ' || c == '\u212a'

/-- User and password before the host of a web address. -/
def credentials : Rule where
  pattern := .all [anyCase "http", .run (sameLetter 's') 0 (some 1), exactly "://",
    .run (fun c => !(c == '/' || c == ':' || c == '@' || isBlank c)) 1 none, .one (· == ':'),
    .run (fun c => !(c == '/' || c == '@' || isBlank c)) 1 none, .one (· == '@')]
  substitute := fun m => m.takeWhile (· != '/') ++ "//[CREDENTIALS]@".toList

/-- A token after the word `bearer`; case is ignored in both. -/
def bearerToken : Rule where
  pattern := .all [anyCase "bearer", .run isBlank 1 none,
    .run (fun c => isPlain c || foldsToPlain c || "._~+/=-".toList.contains c) 1 none]
  substitute := constantly "Bearer [REDACTED]"

/-- A mobile key. -/
def mobileKey : Rule where
  pattern := .seq (exactly "mob-") (.run (fun c => isPlain c || c == '-') 8 none)
  substitute := constantly "mob-[REDACTED]"

/-- Four groups of one to three digits. -/
def ipAddress : Rule where
  pattern :=
    let group := Pattern.run isDecimalDigit 1 (some 3)
    let dot := Pattern.one (· == '.')
    .all [.boundary, group, dot, group, dot, group, dot, group, .boundary]
  substitute := constantly "[IP]"

/-- A name, an at sign and at least two labels with dots between them. -/
def emailAddress : Rule where
  pattern :=
    let dot := Pattern.one (· == '.')
    let label := Pattern.run (fun c => isWordChar c || c == '-') 1 none
    .all [.run (fun c => isWordChar c || c == '.' || c == '+' || c == '-') 1 none,
      .one (· == '@'), label, .star (.seq dot label), dot, .run isWordChar 1 none]
  substitute := constantly "[EMAIL]"

/-- The rules in the order in which they are applied. -/
def rules : List Rule :=
  [credentials, bearerToken, mobileKey, ipAddress, emailAddress]

end LiveFlags.Redaction

namespace LiveFlags

/-- The message without the secrets that the rules know. -/
def redact (message : String) : String :=
  String.ofList (Redaction.rules.foldl
    (fun cs rule => rule.pattern.replaceAll rule.substitute cs) message.toList)

end LiveFlags
