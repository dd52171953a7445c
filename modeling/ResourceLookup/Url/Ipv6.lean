import ResourceLookup.Text.Casing
import ResourceLookup.Text.Octets
import ResourceLookup.Text.Search

/-!
# IPv6 addresses

An address is eight pieces of sixteen bits, in up to four hexadecimal digits each and separated by
colons. Two colons stand, once, for a run of zero pieces, and the last two pieces may be given as
four decimal octets.
-/

set_option autoImplicit false
set_option relaxedAutoImplicit false

namespace ResourceLookup.Ipv6

/-- A decimal octet without leading zeros. -/
def octetValue? (digits : List Char) : Option Nat :=
  match digits with
  | [] => none
  | first :: rest =>
    if digits.all Text.isAsciiDigit && (rest.isEmpty || first != '0') && digits.length ≤ 3 then
      let value := digits.foldl (fun total c ↦ total * 10 + Text.digitValue c) 0
      if value < 256 then some value else none
    else none

/-- The two pieces that four decimal octets fill. -/
def embedded? (text : List Char) : Option (List Nat) :=
  match Text.splitWhere (· == '.') text with
  | [a, b, c, d] => do
    let a ← octetValue? a
    let b ← octetValue? b
    let c ← octetValue? c
    let d ← octetValue? d
    pure [a * 256 + b, c * 256 + d]
  | _ => none

/-- A piece of one to four hexadecimal digits. -/
def pieceValue? (digits : List Char) : Option Nat :=
  if digits.isEmpty || 4 < digits.length then none
  else
    digits.foldl
      (fun total c ↦ do
        let total ← total
        let value ← Text.hexValue? c
        pure (total * 16 + value))
      (some 0)

/-- The pieces of parts separated by colons; the last part may be decimal. -/
def pieces? : List (List Char) → Option (List Nat)
  | [] => some []
  | [last] =>
    if last.contains '.' then embedded? last
    else (pieceValue? last).map fun value ↦ [value]
  | part :: rest => do
    let value ← pieceValue? part
    let values ← pieces? rest
    pure (value :: values)

/-- The pieces of a text without a run of zeros; an empty text has none. -/
def side? (text : List Char) : Option (List Nat) :=
  if text.isEmpty then some [] else pieces? (Text.splitWhere (· == ':') text)

/-- The text before and behind the first two colons in a row. -/
def splitAtRun? (before : List Char) : List Char → Option (List Char × List Char)
  | ':' :: ':' :: rest => some (before.reverse, rest)
  | c :: rest => splitAtRun? (c :: before) rest
  | [] => none

/-- The eight pieces of an address. -/
def parse? (text : List Char) : Option (List Nat) :=
  match splitAtRun? [] text with
  | none => do
    let pieces ← side? text
    if pieces.length == 8 then some pieces else none
  | some (before, behind) => do
    let left ← side? before
    let right ← side? behind
    if before.contains '.' then none
    else if left.length + right.length ≤ 7 then
      some (left ++ List.replicate (8 - left.length - right.length) 0 ++ right)
    else none

end ResourceLookup.Ipv6
