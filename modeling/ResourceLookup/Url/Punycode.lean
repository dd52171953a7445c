import ResourceLookup.Text.Casing

/-!
# Punycode

The encoding by which a label of any characters is written with ASCII letters, digits and hyphens:
the ASCII characters come first, and behind the last hyphen a sequence of variable-length integers
of 32 bits tells which other characters to insert where. `Punycode.decode?` reads such a label.
-/

set_option autoImplicit false
set_option relaxedAutoImplicit false

namespace ResourceLookup.Punycode

/-- The value of a digit in base thirty-six: letters, then decimal digits. -/
def digitValue? (c : Char) : Option Nat :=
  let lower := Text.asciiLowerChar c
  if 97 ≤ lower.toNat && lower.toNat ≤ 122 then some (lower.toNat - 97)
  else if Text.isAsciiDigit c then some (Text.digitValue c + 26)
  else none

/-- The number of times a difference is divided by thirty-five until it is at most 455, in multiples
of thirty-six, and what remains. The difference bounds the number of steps. -/
def reduceDelta (delta k : Nat) : Nat → Nat × Nat
  | 0 => (delta, k)
  | steps + 1 => if 455 < delta then reduceDelta (delta / 35) (k + 36) steps else (delta, k)

/-- The bias behind an insertion into a text that then has `count` characters. -/
def adapt (delta count : Nat) (first : Bool) : Nat :=
  let halved := if first then delta / 700 else delta / 2
  let (rest, k) := reduceDelta (halved + halved / count) 0 32
  k + 36 * rest / (rest + 38)

/-- The threshold of a digit at a position under a bias. -/
def threshold (k bias : Nat) : Nat :=
  if k ≤ bias then 1 else if bias + 26 ≤ k then 26 else k - bias

/-- The bound of the integers. -/
def integerBound : Nat := Nat.pow 2 32

/-- One integer of the sequence added to `index`, and the rest of the digits. -/
def readInteger? (bias : Nat) (index weight k : Nat) : List Char → Option (Nat × List Char)
  | [] => none
  | c :: rest => do
    let digit ← digitValue? c
    let index := index + digit * weight
    let limit := threshold k bias
    let weight := weight * (36 - limit)
    if integerBound ≤ index then none
    else if digit < limit then some (index, rest)
    else if integerBound ≤ weight then none
    else readInteger? bias index weight (k + 36) rest

/-- Inserts characters into `output` as the sequence of integers tells; `steps` bounds their
number. -/
def insertAll? (code index bias : Nat) (output digits : List Char) : Nat → Option (List Char)
  | 0 => none
  | steps + 1 =>
    if digits.isEmpty then some output
    else do
      let (position, rest) ← readInteger? bias index 1 36 digits
      let count := output.length + 1
      let bias := adapt (position - index) count (index == 0)
      let code := code + position / count
      let place := position % count
      if 0x10FFFF < code || (0xD800 ≤ code && code ≤ 0xDFFF) then none
      else
        insertAll? code (place + 1) bias
          (output.take place ++ Char.ofNat code :: output.drop place) rest steps

/-- The characters in front of the last hyphen, and the ones behind it. A hyphen at the start splits
nothing off. -/
def splitAtLastHyphen (label : List Char) : List Char × List Char :=
  match label.reverse.span (· != '-') with
  | (_, []) | (_, [_]) => ([], label)
  | (behind, _ :: before) => (before.reverse, behind.reverse)

/-- The label that a punycode text stands for. -/
def decode? (text : List Char) : Option (List Char) :=
  let (basic, digits) := splitAtLastHyphen text
  insertAll? 128 0 72 basic digits (digits.length + 1)

end ResourceLookup.Punycode
