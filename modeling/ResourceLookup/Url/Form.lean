import ResourceLookup.Json.Printer
import ResourceLookup.Text.Search
import ResourceLookup.Url.Percent

/-!
# Query strings

Parameters are written in the form `name=value`, joined by ampersands. Letters, digits and the marks
`*`, `-`, `.` and `_` stand for themselves, a space becomes a plus sign, and every other octet of
the UTF-8 form is escaped (`Form.encodePairs`). `Form.decode` reads such a text again: it splits at
ampersands, leaves out empty parts, splits each part at its first equals sign, and undoes plus signs
before escapes.

Parameters come as JSON data. A flat object or a list of pairs can be written, with texts, numbers
and flags for values; what cannot is a `Form.Unsupported`.
-/

set_option autoImplicit false
set_option relaxedAutoImplicit false

namespace ResourceLookup.Form

/-- The ampersand between parameters. -/
def ampersand : UInt8 := 0x26

/-- The equals sign between name and value. -/
def equalsSign : UInt8 := 0x3D

/-- The plus sign, which stands for a space. -/
def plusSign : UInt8 := 0x2B

/-- The space. -/
def space : UInt8 := 0x20

/-- Whether an octet stands for itself. -/
def isPlain (byte : UInt8) : Bool :=
  let code := byte.toNat
  (48 ≤ code && code ≤ 57) || (65 ≤ code && code ≤ 90) || (97 ≤ code && code ≤ 122) ||
    code == 0x2A || code == 0x2D || code == 0x2E || code == 0x5F

/-- The written form of an octet. -/
def encodeOctet (byte : UInt8) : List UInt8 :=
  if isPlain byte then [byte] else if byte = space then [plusSign] else Percent.escape byte

/-- The written form of a name or a value. -/
def encodePart (part : List UInt8) : List UInt8 :=
  part.flatMap encodeOctet

/-- The written form of a parameter. -/
def encodePair (pair : List UInt8 × List UInt8) : List UInt8 :=
  encodePart pair.1 ++ equalsSign :: encodePart pair.2

/-- The written form of parameters. -/
def encodePairs (pairs : List (List UInt8 × List UInt8)) : List UInt8 :=
  List.intercalate [ampersand] (pairs.map encodePair)

/-- A name or a value read again. -/
def decodePart (part : List UInt8) : List UInt8 :=
  Percent.decode (part.map fun byte ↦ if byte = plusSign then space else byte)

/-- A parameter read again; without an equals sign its value is empty. -/
def decodePair (part : List UInt8) : List UInt8 × List UInt8 :=
  match Text.splitAt? equalsSign part with
  | some (name, value) => (decodePart name, decodePart value)
  | none => (decodePart part, [])

/-- The parameters of a query string. -/
def decode (query : List UInt8) : List (List UInt8 × List UInt8) :=
  ((Text.splitWhere (· == ampersand) query).filter fun part ↦ !part.isEmpty).map decodePair

/-! ### Parameters as JSON data -/

/-- Why data cannot be written as parameters. -/
inductive Unsupported where
  | topLevel
  | pair
  | key
  | value
  deriving DecidableEq

/-- The wording of the reason. -/
def Unsupported.message : Unsupported → String
  | .topLevel => "top-level serializer supports only maps and structs"
  | .pair => "unsupported pair"
  | .key => "unsupported key"
  | .value => "unsupported value"

/-- Parameters: any JSON data, or a list of names and values. -/
inductive Parameters where
  | data (value : Json)
  | pairs (entries : List (Json × Json))

/-- The text of a number in a query string. -/
def numberText : JsonNumber → String
  | .integer value => String.ofList (Json.writeInteger value)
  | .real value => String.ofList (Decimal.text .query value)

/-- The text of a name or a value, if it has one. -/
def scalarText? : Json → Option String
  | .bool true => some "true"
  | .bool false => some "false"
  | .number value => some (numberText value)
  | .string text => some text
  | _ => none

/-- The texts of a name and a value. -/
def scalarPair (entry : Json × Json) : Except Unsupported (String × String) :=
  match scalarText? entry.1 with
  | none => .error .key
  | some name =>
    match scalarText? entry.2 with
    | none => .error .value
    | some value => .ok (name, value)

/-- The texts of names and values, up to the first that has none. -/
def scalarPairs : List (Json × Json) → Except Unsupported (List (String × String))
  | [] => .ok []
  | entry :: rest =>
    match scalarPair entry with
    | .error reason => .error reason
    | .ok pair =>
      match scalarPairs rest with
      | .error reason => .error reason
      | .ok pairs => .ok (pair :: pairs)

/-- The names and values of parameters in the order in which they are written. -/
def Parameters.texts : Parameters → Except Unsupported (List (String × String))
  | .pairs entries => scalarPairs entries
  | .data .null => .ok []
  | .data (.object members) =>
    scalarPairs (members.map fun (name, value) ↦ (.string name, value))
  | .data (.array []) => .ok []
  | .data (.array (_ :: _)) => .error .pair
  | .data _ => .error .topLevel

/-- Names and values as octets. -/
def pairOctets (pairs : List (String × String)) : List (List UInt8 × List UInt8) :=
  pairs.map fun (name, value) ↦ (Text.octets name, Text.octets value)

/-- The text of octets, of which all that are no UTF-8 are replaced. -/
def octetText (bytes : List UInt8) : String :=
  match Text.ofOctets? bytes with
  | some text => text
  | none => String.ofList (Text.lossyChars bytes)

/-- The query string of the given names and values. -/
def queryOfPairs (pairs : List (String × String)) : String :=
  octetText (encodePairs (pairOctets pairs))

/-- The query string of parameters. -/
def encodeQuery (parameters : Parameters) : Except Unsupported String :=
  match parameters.texts with
  | .error reason => .error reason
  | .ok pairs => .ok (queryOfPairs pairs)

/-- The names and values of a query string. -/
def decodeQuery (query : String) : List (String × String) :=
  (decode (Text.octets query)).map fun (name, value) ↦ (octetText name, octetText value)

end ResourceLookup.Form
