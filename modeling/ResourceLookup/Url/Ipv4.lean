import ResourceLookup.Text.Casing
import ResourceLookup.Text.Octets
import ResourceLookup.Text.Search

/-!
# IPv4 addresses in host names

A host name whose last part is a number is an IPv4 address of one to four parts, each decimal, octal
behind a zero, or hexadecimal behind `0x`; the last part fills all remaining octets. A name of that
kind that is no address is no host at all.
-/

set_option autoImplicit false
set_option relaxedAutoImplicit false

namespace ResourceLookup.Ipv4

/-- The number of digits in a base. -/
def numberInBase? (base : Nat) (digits : List Char) : Option Nat :=
  digits.foldl
    (fun total c ↦ do
      let total ← total
      let value ← Text.hexValue? c
      if value < base then some (total * base + value) else none)
    (some 0)

/-- The value of a part of an address. -/
def partValue? (part : List Char) : Option Nat :=
  match part with
  | [] => none
  | '0' :: 'x' :: digits | '0' :: 'X' :: digits => numberInBase? 16 digits
  | '0' :: first :: digits => numberInBase? 8 (first :: digits)
  | digits => numberInBase? 10 digits

/-- The parts of a name, a single empty one at its end left out. -/
def parts (name : List Char) : List (List Char) :=
  let all := Text.splitWhere (· == '.') name
  match all.reverse with
  | [] :: rest => if rest.isEmpty then all else rest.reverse
  | _ => all

/-- Whether the last part of a name is a number. -/
def endsInNumber (name : List Char) : Bool :=
  match (parts name).getLast? with
  | none => false
  | some last => (!last.isEmpty && last.all Text.isAsciiDigit) || (partValue? last).isSome

/-- The values of all parts. -/
def partValues? : List (List Char) → Option (List Nat)
  | [] => some []
  | part :: rest => do
    let value ← partValue? part
    let values ← partValues? rest
    pure (value :: values)

/-- The address whose leading octets are given and whose last value fills the rest; `count` octets
are still to be filled. -/
def assemble? (count : Nat) : List Nat → Option Nat
  | [] => none
  | [last] => if last < Nat.pow 256 count then some last else none
  | value :: rest => do
    let tail ← assemble? (count - 1) rest
    if value < 256 then some (value * Nat.pow 256 (count - 1) + tail) else none

/-- The address that a name ending in a number gives. -/
def parse? (name : List Char) : Option Nat := do
  let values ← partValues? (parts name)
  if values.length ≤ 4 then assemble? 4 values else none

end ResourceLookup.Ipv4
