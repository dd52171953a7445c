import ResourceLookup.Character.CombiningClass
import ResourceLookup.Character.Direction
import ResourceLookup.Character.Joining
import ResourceLookup.Character.Mark

/-!
# Labels of host names

What the characters of a label have to satisfy together (`Label.isValid`): it does not start with a
mark; an invisible joiner stands behind a sign that suppresses a vowel, or, if it is the one that
keeps letters apart, between two letters that would connect; and a label with characters beyond
ASCII is not too long to be encoded.

A name with a label that is written from right to left is a name in two directions, and then each of
its labels has to follow one direction (`Label.followsDirection`).
-/

set_option autoImplicit false
set_option relaxedAutoImplicit false

namespace ResourceLookup.Label

open Character

/-! ### Joiners -/

/-- The invisible character that keeps the letters around it apart. -/
def nonJoiner : Char := Char.ofNat 0x200C

/-- The invisible character that connects the letters around it. -/
def joiner : Char := Char.ofNat 0x200D

/-- Whether the first character that is not transparent has one of the two ways to connect. -/
def connects (side : Joining) : List Char → Bool
  | [] => false
  | c :: rest =>
    let type := joining c
    if type = side || type = .both then true
    else if type = .transparent then connects side rest
    else false

/-- Whether an invisible joiner is in place between what precedes it, the nearest character first,
and what follows it. -/
def joinerFits (c : Char) (before behind : List Char) : Bool :=
  match before with
  | [] => false
  | last :: _ =>
    combiningClass last == viramaClass ||
      (c == nonJoiner && connects .left before && connects .right behind)

/-- Whether every invisible joiner is in place; `before` is what precedes the text, the nearest
character first. -/
def joinersFit (before : List Char) : List Char → Bool
  | [] => true
  | c :: rest =>
    (!(c == nonJoiner || c == joiner) || joinerFits c before rest) && joinersFit (c :: before) rest

/-! ### Validity -/

/-- The largest number of characters of a label that has to be encoded. -/
def lengthLimit : Nat := 1000

/-- Whether a label consists of ASCII characters. -/
def isAscii (label : List Char) : Bool :=
  label.all (·.toNat < 0x80)

/-- Whether the characters of a label may stand together. -/
def isValid (label : List Char) : Bool :=
  isAscii label ||
    (!(label.head?.any isMark) && joinersFit [] label && label.length ≤ lengthLimit)

/-! ### Directions -/

/-- Whether a character is written from right to left or is an Arabic digit. -/
def turnsLeft (c : Char) : Bool :=
  match direction c with
  | .rightToLeft | .arabicNumber => true
  | _ => false

/-- Whether a direction may occur inside a label that is written from left to right. -/
def fitsLeftToRight : Direction → Bool
  | .rightToLeft | .arabicNumber => false
  | _ => true

/-- Whether a direction may end a label that is written from left to right. -/
def endsLeftToRight : Direction → Bool
  | .leftToRight | .europeanNumber => true
  | _ => false

/-- Whether a direction may occur inside a label that is written from right to left. -/
def fitsRightToLeft : Direction → Bool
  | .leftToRight => false
  | _ => true

/-- Whether a direction may end a label that is written from right to left. -/
def endsRightToLeft : Direction → Bool
  | .rightToLeft | .arabicNumber | .europeanNumber => true
  | _ => false

/-- Whether a label follows one direction: that of its first character, which is a letter. All
others fit it, and the last one that is no mark may end it. A label that is written from right to
left has no digits of both kinds. -/
def followsDirection (label : List Char) : Bool :=
  match label.map direction with
  | [] => true
  | first :: rest =>
    let inner := (rest.reverse.dropWhile (· = .nonspacing))
    let endsWell (ends : Direction → Bool) : Bool := inner.head?.all ends
    match first with
    | .leftToRight => inner.all fitsLeftToRight && endsWell endsLeftToRight
    | .rightToLeft =>
      inner.all fitsRightToLeft && endsWell endsRightToLeft &&
        !(inner.contains .europeanNumber && inner.contains .arabicNumber)
    | _ => false

/-- Whether the labels of a name go together: all of them follow a direction if one of them turns
left. -/
def goTogether (labels : List (List Char)) : Bool :=
  !(labels.any (·.any turnsLeft)) || labels.all followsDirection

end ResourceLookup.Label
