import ResourceLookup.Json.Basic
import ResourceLookup.Text.Casing
import ResourceLookup.Text.Octets

/-!
# Reading JSON

The reader accepts exactly one value, with white space around it, nested at most 127 deep. It keeps
the members of objects in the order written, repeated names included; `Json.canonical` gives the
value with the last of each name. What stops the reader is a `Json.Fault`, with the line and the
column where it was found, both counted from one, columns in octets.

Numbers. A literal without a fraction and an exponent that fits into 64 bits is an integer. Every
other literal is a floating point number: its leading digits that fit into 64 bits, scaled by a
power of ten with one rounding in each step. Negative zero is a floating point number. A literal
whose scaling overflows is refused.

A value is read within a number of steps; `Json.parse` allows one for each character, and every
step consumes at least one.
-/

set_option autoImplicit false
set_option relaxedAutoImplicit false

namespace ResourceLookup.Json

/-- What can be wrong with a JSON text. -/
inductive Fault where
  | unfinishedList
  | unfinishedObject
  | unfinishedString
  | unfinishedValue
  | expectedColon
  | expectedListEnd
  | expectedObjectEnd
  | expectedLiteral
  | expectedValue
  | invalidEscape
  | invalidNumber
  | numberOutOfRange
  | invalidEncoding
  | controlCharacter
  | nameNotString
  | loneSurrogate
  | trailingComma
  | trailingCharacters
  | unfinishedEscape
  | nestedTooDeep
  deriving DecidableEq

/-- The wording of a fault. -/
def Fault.message : Fault → String
  | .unfinishedList => "EOF while parsing a list"
  | .unfinishedObject => "EOF while parsing an object"
  | .unfinishedString => "EOF while parsing a string"
  | .unfinishedValue => "EOF while parsing a value"
  | .expectedColon => "expected `:`"
  | .expectedListEnd => "expected `,` or `]`"
  | .expectedObjectEnd => "expected `,` or `\x7d`"
  | .expectedLiteral => "expected ident"
  | .expectedValue => "expected value"
  | .invalidEscape => "invalid escape"
  | .invalidNumber => "invalid number"
  | .numberOutOfRange => "number out of range"
  | .invalidEncoding => "invalid unicode code point"
  | .controlCharacter => "control character (\\u0000-\\u001F) found while parsing a string"
  | .nameNotString => "key must be a string"
  | .loneSurrogate => "lone leading surrogate in hex escape"
  | .trailingComma => "trailing comma"
  | .trailingCharacters => "trailing characters"
  | .unfinishedEscape => "unexpected end of hex escape"
  | .nestedTooDeep => "recursion limit exceeded"

/-- A fault and how many characters follow the place where it was found. -/
structure Stop where
  fault : Fault
  remaining : Nat
  deriving DecidableEq

/-- What a step of the reader gives: a result and the text behind it. -/
abbrev Reading (α : Type) := Except Stop (α × List Char)

/-- The reader stops after the next character, or at the end of the text. -/
def stopAfter {α : Type} (fault : Fault) (rest : List Char) : Except Stop α :=
  .error ⟨fault, rest.length - 1⟩

/-- The reader stops where the text goes on with `rest`. -/
def stopBefore {α : Type} (fault : Fault) (rest : List Char) : Except Stop α :=
  .error ⟨fault, rest.length⟩

/-- The white space of JSON. -/
def isSpace (c : Char) : Bool :=
  c == ' ' || c == '\n' || c == '\t' || c == '\r'

/-- The text without white space at its start. -/
def skipSpace (text : List Char) : List Char :=
  text.dropWhile isSpace

/-! ### Strings -/

/-- The number that four hexadecimal digits write down. -/
def hexUnit? (a b c d : Char) : Option Nat := do
  let a ← Text.hexValue? a
  let b ← Text.hexValue? b
  let c ← Text.hexValue? c
  let d ← Text.hexValue? d
  pure (((a * 16 + b) * 16 + c) * 16 + d)

/-- The character of an escape with a single letter. -/
def simpleEscape? (c : Char) : Option Char :=
  if c == '"' || c == '\\' || c == '/' then some c
  else if c == 'b' then some (Char.ofNat 8)
  else if c == 'f' then some (Char.ofNat 12)
  else if c == 'n' then some '\n'
  else if c == 'r' then some '\r'
  else if c == 't' then some '\t'
  else none

/-- Whether a code unit is the second half of a surrogate pair. -/
def isLowSurrogate (unit : Nat) : Bool :=
  0xDC00 ≤ unit && unit ≤ 0xDFFF

/-- Whether a code unit is the first half of a surrogate pair. -/
def isHighSurrogate (unit : Nat) : Bool :=
  0xD800 ≤ unit && unit ≤ 0xDBFF

/-- The reader stops where the second half of a pair should follow the first one. -/
def stopAtPair {α : Type} : List Char → Except Stop α
  | [] | ['\\'] | '\\' :: 'u' :: _ => stopBefore .unfinishedString []
  | '\\' :: _ :: rest | _ :: rest => stopBefore .unfinishedEscape rest

/-- The characters of a string up to its closing quote, in front of the ones read so far. -/
def readChars (read : List Char) : List Char → Reading (List Char)
  | [] => stopBefore .unfinishedString []
  | '"' :: rest => .ok (read.reverse, rest)
  | '\\' :: 'u' :: a :: b :: c :: d :: rest =>
    match hexUnit? a b c d with
    | none => stopBefore .invalidEscape rest
    | some unit =>
      if isLowSurrogate unit then stopBefore .loneSurrogate rest
      else if isHighSurrogate unit then
        match rest with
        | '\\' :: 'u' :: e :: f :: g :: h :: rest' =>
          match hexUnit? e f g h with
          | none => stopBefore .invalidEscape rest'
          | some low =>
            if isLowSurrogate low then
              readChars
                (Char.ofNat (0x10000 + (unit - 0xD800) * 0x400 + (low - 0xDC00)) :: read) rest'
            else stopBefore .loneSurrogate rest'
        | rest => stopAtPair rest
      else readChars (Char.ofNat unit :: read) rest
  | '\\' :: c :: rest =>
    match simpleEscape? c with
    | some plain => readChars (plain :: read) rest
    | none =>
      -- Fewer than four characters follow an escape that has to have four digits.
      if c == 'u' then stopBefore .unfinishedString [] else stopBefore .invalidEscape rest
  | c :: rest =>
    if c == '\\' then stopBefore .unfinishedString []
    else if c.toNat < 32 then stopBefore .controlCharacter rest
    else readChars (c :: read) rest

/-- A string behind its opening quote. -/
def readString (text : List Char) : Reading String :=
  match readChars [] text with
  | .ok (chars, rest) => .ok (String.ofList chars, rest)
  | .error stop => .error stop

/-! ### Numbers -/

/-- The significant digits of a number, and how many digits in front of the decimal point were left
out because the digits no longer fit into 64 bits. -/
structure Significand where
  value : Nat
  dropped : Nat

/-- A number with one more digit. -/
def withDigit (value : Nat) (c : Char) : Nat :=
  value * 10 + Text.digitValue c

/-- The digits in front of the decimal point: those that fit, and the count of the others. -/
def wholePart (value : Nat) : List Char → Significand
  | [] => ⟨value, 0⟩
  | c :: rest =>
    if withDigit value c < Nat.pow 2 64 then wholePart (withDigit value c) rest
    else ⟨value, rest.length + 1⟩

/-- The digits behind the decimal point: those that fit, and how many they are. -/
def fractionPart (value taken : Nat) : List Char → Nat × Nat
  | [] => (value, taken)
  | c :: rest =>
    if withDigit value c < Nat.pow 2 64 then fractionPart (withDigit value c) (taken + 1) rest
    else (value, taken)

/-- Multiplies by `10 ^ power`, or divides where the power is negative, in steps of at most
`10 ^ 308`; nothing if the product overflows. The number of steps is bounded by `steps`. -/
def scale? (value : Float) (power : Int) : Nat → Option Float
  | 0 => some value
  | steps + 1 =>
    if power.natAbs ≤ 308 then
      let factor := Float.ofScientific 1 false power.natAbs
      if 0 ≤ power then
        let product := value * factor
        if product.isInf then none else some product
      else some (value / factor)
    else if value == 0.0 then some value
    else if 0 ≤ power then none
    else scale? (value / Float.ofScientific 1 false 308) (power + 308) steps

/-- The floating point number `value * 10 ^ power`. -/
def realNumber? (negative : Bool) (value : Nat) (power : Int) : Option Float :=
  match scale? (UInt64.ofNat value).toFloat power 5000 with
  | none => none
  | some magnitude => some (if negative then -magnitude else magnitude)

/-- The largest exponent that is taken digit by digit. -/
def exponentLimit : Nat := Nat.pow 2 31 - 1

/-- An exponent of ten kept within 32 bits. -/
def clampExponent (power : Int) : Int :=
  max (-Int.ofNat exponentLimit - 1) (min (Int.ofNat exponentLimit) power)

/-- The number that a literal denotes: its sign, the digits in front of and behind the decimal
point, and the exponent with its sign. -/
def numberOf? (negative : Bool) (whole : List Char) (fraction : Option (List Char))
    (exponent : Option (Bool × List Char)) : Option JsonNumber :=
  let start := wholePart 0 whole
  match fraction, exponent with
  | none, none =>
    if start.dropped == 0 then
      if !negative then some (.integer start.value)
      else if start.value == 0 || Nat.pow 2 63 < start.value then
        (realNumber? true start.value 0).map .real
      else some (.integer (-start.value))
    else (realNumber? negative start.value start.dropped).map .real
  | _, _ =>
    let (value, taken) :=
      if start.dropped == 0 then fractionPart start.value 0 (fraction.getD [])
      else match fraction.getD [] with
        | [] => (start.value, 0)
        | digits => fractionPart start.value 0 digits
    let before : Int := (start.dropped : Int) - (taken : Int)
    match exponent with
    | none => (realNumber? negative value before).map .real
    | some (down, digits) =>
      let size := digits.foldl (fun total c ↦ total * 10 + Text.digitValue c) 0
      if exponentLimit < size then
        if value != 0 && !down then none
        else some (.real (if negative then -0.0 else 0.0))
      else
        let power := clampExponent (if down then before - size else before + size)
        (realNumber? negative value power).map .real

/-- The digits at the start of a text, and the rest. -/
def spanDigits (text : List Char) : List Char × List Char :=
  (text.takeWhile Text.isAsciiDigit, text.dropWhile Text.isAsciiDigit)

/-- The fraction of a number literal, if there is one. -/
def readFraction (text : List Char) : Reading (Option (List Char)) :=
  match text with
  | '.' :: rest =>
    match spanDigits rest with
    | ([], []) => stopBefore .unfinishedValue []
    | ([], rest) => stopAfter .invalidNumber rest
    | (digits, rest) => .ok (some digits, rest)
  | _ => .ok (none, text)

/-- The sign and the digits of an exponent behind its mark. -/
def readExponentDigits (down : Bool) (text : List Char) : Reading (Option (Bool × List Char)) :=
  match spanDigits text with
  | ([], []) => stopBefore .unfinishedValue []
  | ([], _ :: rest) => stopBefore .invalidNumber rest
  | (digits, rest) => .ok (some (down, digits), rest)

/-- The exponent of a number literal, if there is one. -/
def readExponent (text : List Char) : Reading (Option (Bool × List Char)) :=
  match text with
  | mark :: rest =>
    if mark == 'e' || mark == 'E' then
      match rest with
      | '-' :: digits => readExponentDigits true digits
      | '+' :: digits => readExponentDigits false digits
      | digits => readExponentDigits false digits
    else .ok (none, text)
  | [] => .ok (none, text)

/-- The digits in front of the decimal point: a single zero, or digits that start with none. -/
def readWhole (text : List Char) : Reading (List Char) :=
  match text with
  | [] => stopBefore .unfinishedValue []
  | '0' :: rest =>
    match rest with
    | next :: _ =>
      if Text.isAsciiDigit next then stopAfter .invalidNumber rest else .ok (['0'], rest)
    | [] => .ok (['0'], rest)
  | first :: rest =>
    if Text.isAsciiDigit first then .ok (spanDigits (first :: rest))
    else stopBefore .invalidNumber rest

/-- A number literal behind its sign. -/
def readNumber (negative : Bool) (text : List Char) : Reading Json :=
  match readWhole text with
  | .error stop => .error stop
  | .ok (whole, text) =>
    match readFraction text with
    | .error stop => .error stop
    | .ok (fraction, text) =>
      match readExponent text with
      | .error stop => .error stop
      | .ok (exponent, text) =>
        match numberOf? negative whole fraction exponent with
        | some value => .ok (.number value, text)
        | none => stopBefore .numberOutOfRange text

/-! ### Values -/

/-- The rest of a literal name. -/
def readLiteral (value : Json) : List Char → List Char → Reading Json
  | [], text => .ok (value, text)
  | _ :: _, [] => stopBefore .unfinishedValue []
  | expected :: more, c :: text =>
    if c == expected then readLiteral value more text else stopBefore .expectedLiteral text

/-- The colon between a name and its value. -/
def readColon (text : List Char) : Except Stop (List Char) :=
  match skipSpace text with
  | ':' :: rest => .ok rest
  | [] => stopBefore .unfinishedObject []
  | rest => stopAfter .expectedColon rest

mutual

/-- One value, within `steps` steps and `depth` levels of nesting. -/
def readValue (steps depth : Nat) (text : List Char) : Reading Json :=
  match steps with
  | 0 => stopBefore .unfinishedValue text
  | steps + 1 =>
    match skipSpace text with
    | [] => stopBefore .unfinishedValue []
    | 'n' :: rest => readLiteral .null ['u', 'l', 'l'] rest
    | 't' :: rest => readLiteral (.bool true) ['r', 'u', 'e'] rest
    | 'f' :: rest => readLiteral (.bool false) ['a', 'l', 's', 'e'] rest
    | '"' :: rest =>
      match readString rest with
      | .ok (value, rest) => .ok (.string value, rest)
      | .error stop => .error stop
    | '-' :: rest => readNumber true rest
    | '[' :: rest =>
      match depth with
      | 0 => stopBefore .nestedTooDeep rest
      | depth + 1 =>
        match readElements steps depth true [] rest with
        | .ok (elements, rest) => .ok (.array elements, rest)
        | .error stop => .error stop
    | c :: rest =>
      if Text.isAsciiDigit c then readNumber false (c :: rest)
      else if c.toNat == 0x7B then
        match depth with
        | 0 => stopBefore .nestedTooDeep rest
        | depth + 1 =>
          match readMembers steps depth true [] rest with
          | .ok (members, rest) => .ok (.object members, rest)
          | .error stop => .error stop
      else stopBefore .expectedValue rest

/-- The elements of a list up to its closing bracket, behind the ones read so far; the first one is
not preceded by a comma. -/
def readElements (steps depth : Nat) (first : Bool) (read : List Json) (text : List Char) :
    Reading (List Json) :=
  match steps with
  | 0 => stopBefore .unfinishedList text
  | steps + 1 =>
    match skipSpace text with
    | [] => stopBefore .unfinishedList []
    | ']' :: rest => .ok (read.reverse, rest)
    | c :: rest =>
      let start : Except Stop (List Char) :=
        if first then .ok (c :: rest)
        else if c == ',' then
          match skipSpace rest with
          | ']' :: rest => stopBefore .trailingComma rest
          | rest => .ok rest
        else stopBefore .expectedListEnd rest
      match start with
      | .error stop => .error stop
      | .ok start =>
        match readValue steps depth start with
        | .ok (value, rest) => readElements steps depth false (value :: read) rest
        | .error stop => .error stop

/-- The members of an object up to its closing brace, behind the ones read so far; the first one is
not preceded by a comma. -/
def readMembers (steps depth : Nat) (first : Bool) (read : List (String × Json))
    (text : List Char) : Reading (List (String × Json)) :=
  match steps with
  | 0 => stopBefore .unfinishedObject text
  | steps + 1 =>
    match skipSpace text with
    | [] => stopBefore .unfinishedObject []
    | c :: rest =>
      if c.toNat == 0x7D then .ok (read.reverse, rest)
      else
        let start : Except Stop (List Char) :=
          if first then .ok (c :: rest)
          else if c == ',' then .ok (skipSpace rest)
          else stopBefore .expectedObjectEnd rest
        match start with
        | .error stop => .error stop
        | .ok [] => stopBefore .unfinishedValue []
        | .ok (quote :: rest) =>
          if quote != '"' then
            if quote.toNat == 0x7D then stopBefore .trailingComma rest
            else stopBefore .nameNotString rest
          else
            match readString rest with
            | .error stop => .error stop
            | .ok (name, rest) =>
              match readColon rest with
              | .error stop => .error stop
              | .ok rest =>
                match readValue steps depth rest with
                | .ok (value, rest) => readMembers steps depth false ((name, value) :: read) rest
                | .error stop => .error stop

end

/-- How deep lists and objects may be nested. -/
def nestingLimit : Nat := 127

/-- A fault with its line and its column. -/
structure ReadError where
  fault : Fault
  line : Nat
  column : Nat
  deriving DecidableEq

/-- The wording of a fault with its place. -/
def ReadError.message (error : ReadError) : String :=
  error.fault.message ++ " at line " ++ toString error.line ++ " column " ++ toString error.column

/-- Whether a fault is found at the end of the text, and not at a character. -/
def Fault.isAtEnd : Fault → Bool
  | .unfinishedList | .unfinishedObject | .unfinishedString | .unfinishedValue => true
  | _ => false

/-- The number of octets that a fault has read of the last character. -/
def octetsRead (fault : Fault) (last : Char) : Nat :=
  if fault.isAtEnd then last.utf8Size else 1

/-- The column behind characters of one line, the last of them first. -/
def columnBehind (fault : Fault) : List Char → Nat
  | [] => 0
  | last :: before => octetsRead fault last + (before.map Char.utf8Size).foldl (· + ·) 0

/-- The line and the column of a fault behind the given characters; of a character at fault only the
first octet counts. -/
def place (fault : Fault) (consumed : List Char) : Nat × Nat :=
  (1 + consumed.count '\n', columnBehind fault (consumed.reverse.takeWhile (· != '\n')))

/-- A fault of a text, placed. -/
def locate (text : List Char) (stop : Stop) : ReadError :=
  let (line, column) := place stop.fault (text.take (text.length - stop.remaining))
  ⟨stop.fault, line, column⟩

/-- The one value that a text holds, members as written. -/
def parseChars (text : List Char) : Except ReadError Json :=
  match readValue (2 * text.length + 2) nestingLimit text with
  | .error stop => .error (locate text stop)
  | .ok (value, rest) =>
    match skipSpace rest with
    | [] => .ok value
    | rest => .error (locate text ⟨.trailingCharacters, rest.length - 1⟩)

/-- The one value that a text holds, members as written. -/
def parse (text : String) : Except ReadError Json :=
  parseChars text.toList

/-- The one value that a sequence of octets holds in UTF-8, members as written. -/
def parseOctets (bytes : List UInt8) : Except ReadError Json :=
  match Text.ofOctets? bytes with
  | some text => parse text
  | none =>
    let chars := Text.lossyChars bytes
    match parseChars chars with
    | .error error => .error error
    | .ok _ => .error (locate chars ⟨.invalidEncoding, 0⟩)

end ResourceLookup.Json
