import ResourceLookup.Character.CombiningClass
import ResourceLookup.Character.Composite

/-!
# Composed text

The canonical composition of a text (`Text.composed`): composites are taken apart, the marks behind
each starting character are put into ascending order of their combining class, those of one class
staying in order, and then every mark or letter that forms a composite with the starting character
before it is joined to it, unless a mark of the same or a higher class stands between them.

The text must not contain characters that stand for one other, or composites that composition never
forms; the mapping of host names leaves none of them.
-/

set_option autoImplicit false
set_option relaxedAutoImplicit false

namespace ResourceLookup.Text

/-- The parts of a character, taken apart again up to `depth` times. -/
def partsWithin : Nat → Char → List Char
  | 0, c => [c]
  | depth + 1, c =>
    match Character.parts? c with
    | some (first, second) => partsWithin depth first ++ [second]
    | none => [c]

/-- The parts of a character; composites are nested three deep at most. -/
def partsOf (c : Char) : List Char :=
  partsWithin 3 c

/-- Puts a character in front of an ordered text, behind the marks of a lower class. -/
def insertMark (c : Char) : List Char → List Char
  | [] => [c]
  | next :: rest =>
    let class₁ := Character.combiningClass c
    let class₂ := Character.combiningClass next
    if class₂ != 0 && class₂ < class₁ then next :: insertMark c rest else c :: next :: rest

/-- The text with composites taken apart and marks in order. -/
def decomposed (text : List Char) : List Char :=
  (text.flatMap partsOf).foldr insertMark []

/-- Joins the text behind a starting character to it. The marks that stay apart are `behind`, the
last of them first; `read` is the text in front of the starting character, reversed. -/
def joinFrom (read : List Char) (start : Char) (behind : List Char) : List Char → List Char
  | [] => (behind ++ start :: read).reverse
  | c :: rest =>
    let isFree := match behind with
      | [] => true
      | last :: _ => Character.combiningClass last < Character.combiningClass c
    match if isFree then Character.composite? start c else none with
    | some whole => joinFrom read whole behind rest
    | none =>
      if Character.combiningClass c == 0 then joinFrom (behind ++ start :: read) c [] rest
      else joinFrom read start (c :: behind) rest

/-- Joins the characters of an ordered text. Marks at its start have nothing to be joined to. -/
def joined (text : List Char) : List Char :=
  let isMark (c : Char) : Bool := Character.combiningClass c != 0
  match text.dropWhile isMark with
  | [] => text
  | start :: rest => joinFrom (text.takeWhile isMark).reverse start [] rest

/-- The canonical composition of a text; a text without characters from U+0300 on is composed. -/
def composed (text : List Char) : List Char :=
  if text.all (·.toNat < 0x300) then text else joined (decomposed text)

end ResourceLookup.Text
