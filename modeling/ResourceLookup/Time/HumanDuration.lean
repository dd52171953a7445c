import ResourceLookup.Text.Blank
import ResourceLookup.Text.Casing
import ResourceLookup.Time.Duration

/-!
# Durations in words

The text in which settings give durations: a sequence of numbers with units, such as `2m 30s`, read
by `HumanDuration.parse` and written by `HumanDuration.format`. A month is 30.44 days and a year
365.25 days.

Reading. White space may stand anywhere between the digits of a number and between a number and its
unit, but ends a unit. A number may have a decimal fraction, which has to come out as a whole number
of nanoseconds, and from hours on as a whole number of seconds. All terms are added; neither a term
nor the sum may leave 64 bits of seconds. The text `0` alone is a duration too.

Writing. Years, months, days, hours, minutes, seconds and the three fractions of a second, each as
far as it fits, those that are zero left out; the units from days upwards have a plural. A settings
value is such a text, or a whole number of seconds (`HumanDuration.decode`).
-/

set_option autoImplicit false
set_option relaxedAutoImplicit false

namespace ResourceLookup.HumanDuration

/-- The units that can be read. -/
inductive TimeUnit where
  | nanosecond
  | microsecond
  | millisecond
  | second
  | minute
  | hour
  | day
  | week
  | month
  | year
  deriving DecidableEq

/-- The length of a unit in nanoseconds. -/
def TimeUnit.nanos : TimeUnit → Nat
  | .nanosecond => 1
  | .microsecond => 1000
  | .millisecond => 1000000
  | .second => 1000000000
  | .minute => 60 * 1000000000
  | .hour => 3600 * 1000000000
  | .day => 86400 * 1000000000
  | .week => 604800 * 1000000000
  | .month => 2630016 * 1000000000
  | .year => 31557600 * 1000000000

/-- The names under which a unit can be given. -/
def TimeUnit.named? (name : String) : Option TimeUnit :=
  if ["nanos", "nsec", "ns"].contains name then some .nanosecond
  else if ["usec", "us", "µs"].contains name then some .microsecond
  else if ["millis", "msec", "ms"].contains name then some .millisecond
  else if ["seconds", "second", "secs", "sec", "s"].contains name then some .second
  else if ["minutes", "minute", "min", "mins", "m"].contains name then some .minute
  else if ["hours", "hour", "hrs", "hr", "h"].contains name then some .hour
  else if ["days", "day", "d"].contains name then some .day
  else if ["weeks", "week", "wks", "wk", "w"].contains name then some .week
  else if ["months", "month", "M"].contains name then some .month
  else if ["years", "year", "yrs", "yr", "y"].contains name then some .year
  else none

/-- Whether a character can belong to the name of a unit. -/
def isUnitChar (c : Char) : Bool :=
  Text.isAsciiLetter c || c == 'µ'

/-- What can be wrong with the text of a duration. -/
inductive Fault where
  | empty
  | numberExpected
  | invalidCharacter
  | unknownUnit (name : String)
  | tooLarge
  deriving DecidableEq

/-- The wording of a fault. -/
def Fault.message : Fault → String
  | .empty => "value was empty"
  | .numberExpected => "expected number"
  | .invalidCharacter => "invalid character"
  | .unknownUnit name => "unknown time unit \"" ++ name ++ "\""
  | .tooLarge =>
    "number is too large or cannot be represented without a lack of precision " ++
      "(values below 1ns are not supported)"

/-- A number of 64 bits, or the fault of being too large. -/
def within64 (value : Nat) : Except Fault Nat :=
  if value < Nat.pow 2 64 then .ok value else .error .tooLarge

/-- A decimal fraction `numerator / denominator`, the denominator a power of ten. -/
structure Fraction where
  numerator : Nat
  denominator : Nat

/-- Adds seconds and nanoseconds, each below 64 bits, to a duration. -/
def accumulate (total : Duration) (seconds nanos : Nat) : Except Fault Duration :=
  match within64 (total.subsecond + nanos) with
  | .error fault => .error fault
  | .ok below =>
    match Duration.ofNanos? ((total.seconds + seconds) * nanosPerSecond + below) with
    | some sum => .ok sum
    | none => .error .tooLarge

/-- Adds whole units to a duration. -/
def addWhole (total : Duration) (count : Nat) (unit : TimeUnit) : Except Fault Duration :=
  if unit.nanos < nanosPerSecond then do
    let nanos ← within64 (count * unit.nanos)
    accumulate total 0 nanos
  else do
    let seconds ← within64 (count * (unit.nanos / nanosPerSecond))
    accumulate total seconds 0

/-- A fraction of a length, which has to be a whole number. -/
def Fraction.of (fraction : Fraction) (length : Nat) : Except Fault Nat :=
  match within64 (fraction.numerator * length) with
  | .error fault => .error fault
  | .ok scaled =>
    if scaled % fraction.denominator == 0 then .ok (scaled / fraction.denominator)
    else .error .tooLarge

/-- Whether fractions of a unit are counted in whole seconds. -/
def TimeUnit.fractionInSeconds (unit : TimeUnit) : Bool :=
  TimeUnit.nanos .hour ≤ unit.nanos

/-- Adds a fraction of a unit to a duration: a whole number of seconds from hours on, a whole number
of nanoseconds below. -/
def addFraction (total : Duration) (fraction : Fraction) (unit : TimeUnit) :
    Except Fault Duration :=
  if unit = .nanosecond then .error .tooLarge
  else if unit.fractionInSeconds then do
    let seconds ← fraction.of (unit.nanos / nanosPerSecond)
    accumulate total seconds 0
  else do
    let nanos ← fraction.of unit.nanos
    accumulate total 0 nanos

/-- Adds a number with the unit of that name to a duration. -/
def addTerm (total : Duration) (count : Nat) (fraction : Option Fraction) (unitName : List Char) :
    Except Fault Duration :=
  match TimeUnit.named? (String.ofList unitName) with
  | none => .error (.unknownUnit (String.ofList unitName))
  | some unit =>
    match addWhole total count unit with
    | .error fault => .error fault
    | .ok sum =>
      match fraction with
      | none => .ok sum
      | some fraction => addFraction sum fraction unit

/-- The reader's place in a text: in front of a number, inside the digits of a number, inside the
digits of a fraction, or inside the name of a unit. -/
inductive Place where
  | start (total : Option Duration)
  | whole (total : Duration) (count : Nat)
  | fraction (total : Duration) (count numerator denominator : Nat)
  | unit (total : Duration) (count : Nat) (fraction : Option Fraction) (name : List Char)

/-- The fraction read so far; at least one digit has to follow the point. -/
def closeFraction (numerator denominator : Nat) : Except Fault Fraction :=
  if denominator == 1 then .error .invalidCharacter else .ok ⟨numerator, denominator⟩

/-- One character of the text. -/
def step (place : Place) (c : Char) : Except Fault Place :=
  match place with
  | .start total =>
    if Text.isAsciiDigit c then .ok (.whole (total.getD Duration.zero) (Text.digitValue c))
    else if Text.isWhite c then .ok (.start total)
    else .error .numberExpected
  | .whole total count =>
    if Text.isAsciiDigit c then do
      let longer ← within64 (count * 10 + Text.digitValue c)
      .ok (.whole total longer)
    else if Text.isWhite c then .ok place
    else if isUnitChar c then .ok (.unit total count none [c])
    else if c == '.' then .ok (.fraction total count 0 1)
    else .error .invalidCharacter
  | .fraction total count numerator denominator =>
    if Text.isAsciiDigit c then do
      let denominator ← within64 (denominator * 10)
      let numerator ← within64 (numerator * 10 + Text.digitValue c)
      .ok (.fraction total count numerator denominator)
    else if Text.isWhite c then .ok place
    else if isUnitChar c then do
      let fraction ← closeFraction numerator denominator
      .ok (.unit total count (some fraction) [c])
    else .error .invalidCharacter
  | .unit total count fraction name =>
    if Text.isAsciiDigit c then do
      let sum ← addTerm total count fraction name.reverse
      .ok (.whole sum (Text.digitValue c))
    else if Text.isWhite c then do
      let sum ← addTerm total count fraction name.reverse
      .ok (.start (some sum))
    else if isUnitChar c then .ok (.unit total count fraction (c :: name))
    else .error .invalidCharacter

/-- The end of the text. -/
def finish : Place → Except Fault Duration
  | .start none => .error .empty
  | .start (some total) => .ok total
  | .whole total count => addTerm total count none []
  | .fraction total count numerator denominator => do
    let fraction ← closeFraction numerator denominator
    addTerm total count (some fraction) []
  | .unit total count fraction name => addTerm total count fraction name.reverse

/-- Reads the characters from a place on. -/
def run (place : Place) : List Char → Except Fault Duration
  | [] => finish place
  | c :: rest =>
    match step place c with
    | .error fault => .error fault
    | .ok place => run place rest

/-- The duration that a text gives. -/
def parse (text : String) : Except Fault Duration :=
  if text == "0" then .ok Duration.zero else run (.start none) text.toList

/-- The duration that a text gives once the white space around it is taken away. -/
def parseTrimmed (text : String) : Except Fault Duration :=
  parse (Text.trim text)

/-! ### Writing -/

/-- The units that are written, the largest first: length in nanoseconds, name, and whether the name
has a plural. -/
def writtenUnits : List (Nat × String × Bool) :=
  [(31557600 * 1000000000, "year", true), (2630016 * 1000000000, "month", true),
   (86400 * 1000000000, "day", true), (3600 * 1000000000, "h", false),
   (60 * 1000000000, "m", false), (1000000000, "s", false), (1000000, "ms", false),
   (1000, "us", false), (1, "ns", false)]

/-- The terms of a number of nanoseconds in the given units. -/
def terms (nanos : Nat) : List (Nat × String × Bool) → List String
  | [] => []
  | (length, name, plural) :: units =>
    let count := nanos / length
    let rest := terms (nanos % length) units
    if count == 0 then rest
    else (toString count ++ name ++ (if plural && 1 < count then "s" else "")) :: rest

/-- The text of a duration. -/
def format (duration : Duration) : String :=
  if duration.nanos == 0 then "0s"
  else String.intercalate " " (terms duration.nanos writtenUnits)

/-! ### Settings values -/

/-- What a settings value for a duration should be. -/
def expectation : String :=
  "a duration string like \"250ms\" or a number of seconds"

/-- A duration in a settings value: a text, or a whole number of seconds. -/
def decode : Json → Json.Decoded Duration
  | .string text =>
    match parseTrimmed text with
    | .ok duration => .ok duration
    | .error _ => .error (.outOfRange (Json.describe (.string text)) expectation)
  | .number (.integer value) =>
    if 0 ≤ value then .ok (Duration.ofSeconds value.toNat)
    else .error (.outOfRange (Json.describe (.number (.integer value))) expectation)
  | other => .error (.wrongKind other.describe expectation)

/-- A duration as a settings value. -/
def encode (duration : Duration) : Json :=
  .string (format duration)

end ResourceLookup.HumanDuration
