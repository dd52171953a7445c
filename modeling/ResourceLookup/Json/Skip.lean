import ResourceLookup.Json.Reader

/-!
# Skipping JSON values

Text that nobody asks for is skipped instead of read: it has to follow the grammar of JSON, but may
hold numbers that are out of range, escapes that are halves of a pair only, and lists and objects
nested to any depth (`Json.skipValue?`).

`Json.parseRecord?` reads the text of a record in this way: the members of an object that are known
are read, all others are skipped and left out.
-/

set_option autoImplicit false
set_option relaxedAutoImplicit false

namespace ResourceLookup.Json

/-- The text behind a string whose opening quote has been read. -/
def skipString? : List Char → Option (List Char)
  | [] => none
  | '"' :: rest => some rest
  | '\\' :: 'u' :: a :: b :: c :: d :: rest =>
    if (hexUnit? a b c d).isSome then skipString? rest else none
  | '\\' :: c :: rest => if (simpleEscape? c).isSome then skipString? rest else none
  | c :: rest => if c.toNat < 32 then none else skipString? rest

/-- The text behind a number whose sign has been read. -/
def skipNumber? (text : List Char) : Option (List Char) :=
  match readWhole text with
  | .error _ => none
  | .ok (_, text) =>
    match readFraction text with
    | .error _ => none
    | .ok (_, text) =>
      match readExponent text with
      | .error _ => none
      | .ok (_, text) => some text

/-- The text behind a literal name. -/
def skipLiteral? (name text : List Char) : Option (List Char) :=
  match readLiteral .null name text with
  | .error _ => none
  | .ok (_, text) => some text

/-- The text behind a string, a number or a literal name. -/
def skipScalar? : List Char → Option (List Char)
  | [] => none
  | '"' :: rest => skipString? rest
  | '-' :: rest => skipNumber? rest
  | 'n' :: rest => skipLiteral? ['u', 'l', 'l'] rest
  | 't' :: rest => skipLiteral? ['r', 'u', 'e'] rest
  | 'f' :: rest => skipLiteral? ['a', 'l', 's', 'e'] rest
  | c :: rest => if Text.isAsciiDigit c then skipNumber? (c :: rest) else none

/-- The text behind the name of a member and its colon. -/
def skipName? (text : List Char) : Option (List Char) :=
  match skipSpace text with
  | '"' :: rest =>
    match skipString? rest with
    | none => none
    | some rest =>
      match skipSpace rest with
      | ':' :: rest => some rest
      | _ => none
  | _ => none

/-- A list or an object that is not yet closed. -/
inductive Bracket where
  | list
  | object
  deriving DecidableEq

/-- The bracket that a character opens. -/
def Bracket.opening? (c : Char) : Option Bracket :=
  if c == '[' then some .list else if c.toNat == 0x7B then some .object else none

/-- Whether a character closes the bracket. -/
def Bracket.isClosedBy : Bracket → Char → Bool
  | .list, c => c == ']'
  | .object, c => c.toNat == 0x7D

/-- The text from which the next value inside the bracket is read. -/
def Bracket.nextValue? : Bracket → List Char → Option (List Char)
  | .list, text => some text
  | .object, text => skipName? text

/-- Where a text that is skipped goes on: with a value, behind an opening bracket, or behind a
value. -/
inductive SkipPlace where
  | value
  | opened
  | behind
  deriving DecidableEq

/-- The text behind the value that is being skipped, with the brackets that are still to be closed,
the innermost first, within `steps` steps. -/
def skip? : Nat → List Bracket → SkipPlace → List Char → Option (List Char)
  | 0, _, _, _ => none
  | steps + 1, brackets, .value, text =>
    match skipSpace text with
    | [] => none
    | c :: rest =>
      match Bracket.opening? c with
      | some bracket => skip? steps (bracket :: brackets) .opened rest
      | none =>
        match skipScalar? (c :: rest) with
        | some rest => skip? steps brackets .behind rest
        | none => none
  | _ + 1, [], _, text => some text
  | steps + 1, bracket :: outer, .opened, text =>
    match skipSpace text with
    | [] => none
    | c :: rest =>
      if bracket.isClosedBy c then skip? steps outer .behind rest
      else
        match bracket.nextValue? (c :: rest) with
        | some rest => skip? steps (bracket :: outer) .value rest
        | none => none
  | steps + 1, bracket :: outer, .behind, text =>
    match skipSpace text with
    | [] => none
    | c :: rest =>
      if bracket.isClosedBy c then skip? steps outer .behind rest
      else if c == ',' then
        match bracket.nextValue? rest with
        | some rest => skip? steps (bracket :: outer) .value rest
        | none => none
      else none

/-- The text behind one value of any kind, within `budget` steps. -/
def skipValue? (budget : Nat) (text : List Char) : Option (List Char) :=
  skip? budget [] .value text

/-- The value of a member that is known, or nothing for one that is skipped, and the text behind
it. -/
def readIfKnown? (known : List String) (budget : Nat) (name : String) (text : List Char) :
    Option (Option Json × List Char) :=
  if known.contains name then
    match readValue budget (nestingLimit - 1) text with
    | .ok (value, rest) => some (some value, rest)
    | .error _ => none
  else (skipValue? budget text).map fun rest ↦ (none, rest)

/-- The known members of an object up to its closing brace, behind the ones read so far; the first
member is not preceded by a comma. `budget` bounds the steps for one value. -/
def readKnown? (known : List String) (budget : Nat) :
    Nat → Bool → List (String × Json) → List Char → Option (List (String × Json) × List Char)
  | 0, _, _, _ => none
  | steps + 1, first, read, text =>
    match skipSpace text with
    | [] => none
    | c :: rest =>
      if c.toNat == 0x7D then some (read.reverse, rest)
      else
        match if first then c :: rest else if c == ',' then skipSpace rest else [] with
        | '"' :: rest => do
          let (name, rest) ← (readString rest).toOption
          let rest ← (readColon rest).toOption
          let (value, rest) ← readIfKnown? known budget name rest
          let read := match value with
            | some value => (name, value) :: read
            | none => read
          readKnown? known budget steps false read rest
        | _ => none

/-- The record that a text holds: of an object the known members as written, anything else as it
is. Twice as many steps as characters are enough for each value, because of two steps in a row at
least one consumes a character. -/
def parseRecord? (known : List String) (text : String) : Option Json :=
  let chars := text.toList
  let budget := 2 * chars.length + 2
  match skipSpace chars with
  | [] => none
  | c :: rest =>
    if c.toNat == 0x7B then
      match readKnown? known budget budget true [] rest with
      | some (members, rest) =>
        if (skipSpace rest).isEmpty then some (.object members) else none
      | none => none
    else (parseChars chars).toOption

end ResourceLookup.Json
