import LiveFlags.Text.CharClass

/-!
# Text patterns

A `Pattern` is a regular expression over characters with word boundaries. `Pattern.Matches` says
which stretches of a text it matches. `Pattern.ends` lists the ends of the matches from one
position in the order of preference, in which a repetition first tries to be as long as it can.

`Pattern.replaceAll` goes through a text from the left: at the first position where the pattern
matches, the preferred match is replaced and the search goes on behind it.
-/

namespace LiveFlags.Redaction

/-- A place in a text: the character before it and the text after it. -/
structure Position where
  before : Option Char
  rest : List Char
deriving DecidableEq, Repr

namespace Position

/-- The start of a text. -/
def start (cs : List Char) : Position :=
  ⟨none, cs⟩

/-- Whether exactly one of the two neighbours is a word character. -/
def atBoundary (p : Position) : Bool :=
  (p.before.any isWordChar) != (p.rest.head?.any isWordChar)

end Position

/-- A regular expression. -/
inductive Pattern where
  /-- One character of a class. -/
  | one (p : Char → Bool)
  /-- A word boundary. -/
  | boundary
  /-- One pattern after another. -/
  | seq (a b : Pattern)
  /-- At least `least` and, when given, at most `most` characters of a class. -/
  | run (p : Char → Bool) (least : Nat) (most : Option Nat)
  /-- Any number of matches of a pattern. -/
  | star (a : Pattern)

namespace Pattern

/-- The empty pattern. -/
def empty : Pattern :=
  .run (fun _ => false) 0 none

/-- Several patterns in a row. -/
def all : List Pattern → Pattern
  | [] => empty
  | [a] => a
  | a :: as => .seq a (all as)

/-- The characters of a text, each as it is. -/
def exactly (s : String) : Pattern :=
  all (s.toList.map fun c => .one (· == c))

/-- Whether two characters are the same letter when case is ignored. Two characters outside of
ASCII fold to an ASCII letter: the long s and the Kelvin sign. -/
def sameLetter (letter c : Char) : Bool :=
  c.toLower == letter || (letter == 's' && c == 'ſ') || (letter == 'k' && c == '\u212a')

/-- The characters of a text in lower case, each in any case. -/
def anyCase (s : String) : Pattern :=
  all (s.toList.map fun c => .one (sameLetter c))

/-- Whether `n` may be the length of a run. -/
def Admits (least : Nat) (most : Option Nat) (n : Nat) : Prop :=
  least ≤ n ∧ ∀ m ∈ most, n ≤ m

/-- `Matches p i j`: the pattern matches the text between the positions `i` and `j`. -/
inductive Matches : Pattern → Position → Position → Prop where
  | one {p : Char → Bool} {b : Option Char} {c : Char} {cs : List Char} :
    p c = true → Matches (.one p) ⟨b, c :: cs⟩ ⟨some c, cs⟩
  | boundary {i : Position} : i.atBoundary = true → Matches .boundary i i
  | seq {a b : Pattern} {i j k : Position} :
    Matches a i j → Matches b j k → Matches (.seq a b) i k
  | run {p : Char → Bool} {least : Nat} {most : Option Nat} {b : Option Char}
    {taken cs : List Char} :
    (∀ c ∈ taken, p c = true) → Admits least most taken.length →
      Matches (.run p least most) ⟨b, taken ++ cs⟩ ⟨taken.getLast? <|> b, cs⟩
  | starNone {a : Pattern} {i : Position} : Matches (.star a) i i
  | starMore {a : Pattern} {i j k : Position} :
    Matches a i j → Matches (.star a) j k → Matches (.star a) i k

/-- The ends of runs from a position, the longest first; `found` holds those of shorter runs. -/
def runEnds (p : Char → Bool) (least : Nat) (most : Option Nat) (before : Option Char) :
    List Char → List Position → List Position
  | [], found => if least = 0 then ⟨before, []⟩ :: found else found
  | c :: cs, found =>
    let found := if least = 0 then ⟨before, c :: cs⟩ :: found else found
    if most = some 0 || !p c then found
    else runEnds p (least - 1) (most.map (· - 1)) (some c) cs found

/-- The ends of repeated matches from a position, more repetitions first. A repetition that
consumes nothing is not tried. -/
def starEnds (step : Position → List Position) : Nat → Position → List Position
  | 0, i => [i]
  | fuel + 1, i =>
    (step i).flatMap (fun j => if j.rest.length < i.rest.length then starEnds step fuel j else [])
      ++ [i]

/-- The ends of the matches from a position, the preferred one first. -/
def ends : Pattern → Position → List Position
  | .one p, i =>
    match i.rest with
    | c :: cs => if p c then [⟨some c, cs⟩] else []
    | [] => []
  | .boundary, i => if i.atBoundary then [i] else []
  | .seq a b, i => (ends a i).flatMap (ends b)
  | .run p least most, i => runEnds p least most i.before i.rest []
  | .star a, i => starEnds (ends a) i.rest.length i

/-- The text between a position and a later one. -/
def between (i j : Position) : List Char :=
  i.rest.take (i.rest.length - j.rest.length)

/-- Replaces the matches in the text from a position on. -/
def replaceFrom (pattern : Pattern) (substitute : List Char → List Char) :
    Nat → Position → List Char
  | 0, i => i.rest
  | fuel + 1, i =>
    match i.rest with
    | [] => []
    | c :: cs =>
      match pattern.ends i with
      | j :: _ =>
        if j.rest.length < i.rest.length then
          substitute (between i j) ++ replaceFrom pattern substitute fuel j
        else c :: replaceFrom pattern substitute fuel ⟨some c, cs⟩
      | [] => c :: replaceFrom pattern substitute fuel ⟨some c, cs⟩

/-- Replaces all matches in a text, from the left. -/
def replaceAll (pattern : Pattern) (substitute : List Char → List Char) (cs : List Char) :
    List Char :=
  replaceFrom pattern substitute cs.length (Position.start cs)

/-- Some stretch of the text matches. -/
def OccursIn (pattern : Pattern) (cs : List Char) : Prop :=
  ∃ (pre post : List Char) (j : Position),
    cs = pre ++ post ∧ Matches pattern ⟨pre.getLast?, post⟩ j

end Pattern

end LiveFlags.Redaction
