import LiveFlags.Url.Host
import LiveFlags.Url.Punycode

/-!
# Domain names

A domain name is compared without regard to case and must not hold characters that end a host or
have a meaning of their own in a URL. It may be written in any script; characters of full width and
ideographic stops stand for their ASCII forms, and characters that show nothing are dropped. A
label of another script may also stand in its ASCII form, with `xn--` in front.
-/

namespace LiveFlags.Url.Domain

/-- Whether a code lies in one of some ranges. -/
def isIn (ranges : List (Nat × Nat)) (c : Char) : Bool :=
  ranges.any fun (first, last) => first ≤ c.toNat && c.toNat ≤ last

/-- Characters of ASCII that no domain name may hold. -/
def isForbidden (c : Char) : Bool :=
  c.toNat ≤ 0x20 || c.toNat = 0x7F || "%#/:<>?@[\\]^|".toList.contains c

/-- Characters that show nothing: the soft hyphen, joiners of words and selectors of variants. -/
def isIgnored : Char → Bool :=
  isIn [(0xAD, 0xAD), (0x34F, 0x34F), (0x180B, 0x180D), (0x180F, 0x180F), (0x200B, 0x200B),
    (0x2060, 0x2060), (0x2064, 0x2064), (0xFE00, 0xFE0F), (0xFEFF, 0xFEFF), (0xE0100, 0xE01EF)]

/-- Characters that no name of any script holds: controls, blanks, marks of direction, joiners of
letters, codes for private use and codes that are no characters. -/
def isExcluded (c : Char) : Bool :=
  c.toNat % 0x10000 ≥ 0xFFFE || isIn [(0x80, 0xA0), (0x1680, 0x1680), (0x180E, 0x180E),
    (0x2000, 0x200A), (0x200C, 0x200F), (0x2028, 0x202F), (0x205F, 0x205F), (0x2061, 0x2063),
    (0x2065, 0x206F), (0x2FF0, 0x2FFF), (0x3000, 0x3000), (0xE000, 0xF8FF), (0xFDD0, 0xFDEF),
    (0xFFF9, 0xFFFF), (0xE0000, 0xE00FF), (0xF0000, 0x10FFFF)] c

/-- The form in which a character is compared. -/
def folded (c : Char) : Char :=
  if 0xFF01 ≤ c.toNat ∧ c.toNat ≤ 0xFF5E then (Char.ofNat (c.toNat - 0xFEE0)).toLower
  else if c.toNat = 0x3002 ∨ c.toNat = 0xFF0E ∨ c.toNat = 0xFF61 then '.'
  else c.toLower

/-- Marks that combine with the character in front of them. -/
def isCombining : Char → Bool :=
  isIn [(0x300, 0x36F), (0x483, 0x489), (0x1AB0, 0x1AFF), (0x1DC0, 0x1DFF), (0x20D0, 0x20FF),
    (0x3099, 0x309A), (0xFE20, 0xFE2F)]

/-- Whether a label in its own script is in normal form. -/
def isNormal (label : List Char) : Bool :=
  !label.head?.any isCombining && label.all fun c =>
    !isForbidden c && !isExcluded c && !isIgnored c && folded c == c && c != '.'

/-- Whether a label can be part of a name. What stands behind `xn--` has to be the ASCII form of a
label in normal form that has one. -/
def isLabel (label : List Char) : Bool :=
  match label with
  | 'x' :: 'n' :: '-' :: '-' :: code =>
    match Punycode.decode? code with
    | some name => isNormal name && name.any fun c => 0x80 ≤ c.toNat
    | none => false
  | _ => isNormal label

/-- The name in its normal form, if it is one. -/
def normalize? (name : List Char) : Option (List Char) :=
  let folded := (name.filter fun c => !isIgnored c).map folded
  if (Host.splitAt '.' folded).all isLabel then some folded else none

end LiveFlags.Url.Domain
