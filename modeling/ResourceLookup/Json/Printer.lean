import ResourceLookup.Decimal.Shortest
import ResourceLookup.Json.Basic
import ResourceLookup.Text.Octets

/-!
# Writing JSON

The compact written form of a value: no white space, members in the order of the object, quotes,
backslashes and control characters escaped, every other character written as it is. Numbers are
written as decimal integers or as the shortest decimal text that reads back.
-/

set_option autoImplicit false
set_option relaxedAutoImplicit false

namespace ResourceLookup.Json

/-- The written form of one character inside a string. -/
def escapeChar (c : Char) : List Char :=
  if c == '"' then ['\\', '"']
  else if c == '\\' then ['\\', '\\']
  else if c.toNat == 8 then ['\\', 'b']
  else if c.toNat == 9 then ['\\', 't']
  else if c.toNat == 10 then ['\\', 'n']
  else if c.toNat == 12 then ['\\', 'f']
  else if c.toNat == 13 then ['\\', 'r']
  else if c.toNat < 32 then
    ['\\', 'u', '0', '0', Text.hexDigit (c.toNat / 16), Text.hexDigit (c.toNat % 16)]
  else [c]

/-- The written form of a text: escaped, between quotes. -/
def writeString (text : String) : List Char :=
  '"' :: (text.toList.flatMap escapeChar ++ ['"'])

/-- The decimal digits of an integer, with a minus sign where it is negative. -/
def writeInteger (value : Int) : List Char :=
  if value < 0 then '-' :: Nat.toDigits 10 value.natAbs else Nat.toDigits 10 value.natAbs

/-- The written form of a number. -/
def writeNumber : JsonNumber → List Char
  | .integer value => writeInteger value
  | .real value => Decimal.text .json value

mutual

/-- The written form of a value. -/
def write : Json → List Char
  | .null => ['n', 'u', 'l', 'l']
  | .bool true => ['t', 'r', 'u', 'e']
  | .bool false => ['f', 'a', 'l', 's', 'e']
  | .number value => writeNumber value
  | .string value => writeString value
  | .array [] => ['[', ']']
  | .array (first :: rest) => '[' :: (write first ++ writeElements rest)
  | .object [] => [Char.ofNat 0x7B, Char.ofNat 0x7D]
  | .object ((name, first) :: rest) =>
    Char.ofNat 0x7B :: (writeString name ++ ':' :: (write first ++ writeMembers rest))
termination_by structural value => value

/-- The elements behind the first one, each after a comma, and the closing bracket. -/
def writeElements : List Json → List Char
  | [] => [']']
  | first :: rest => ',' :: (write first ++ writeElements rest)
termination_by structural elements => elements

/-- The members behind the first one, each after a comma, and the closing brace. -/
def writeMembers : List (String × Json) → List Char
  | [] => [Char.ofNat 0x7D]
  | (name, first) :: rest =>
    ',' :: (writeString name ++ ':' :: (write first ++ writeMembers rest))
termination_by structural members => members

end

/-- The compact text of a value. -/
def compact (value : Json) : String :=
  String.ofList value.write

end ResourceLookup.Json
