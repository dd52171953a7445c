import ResourceLookup.Text.Casing
import ResourceLookup.Time.Calendar
import ResourceLookup.Time.Duration

/-!
# Points in time

A `Timestamp` is a point of the time line with the offset from universal time in which it is told.
It is written and read in the Internet date and time format (RFC 3339): `Timestamp.write?` and
`Timestamp.parse?`.

The instant is a number of nanoseconds of local time, counted on the calendar from the beginning of
year 0, less the offset. Reading takes any single character between date and time, a fraction of any
length of which nine digits count, and offsets of less than a day. A sixtieth second is accepted
where a leap second can be, at the end of a month in universal time, and stands for the last
nanosecond before it. Writing needs a year from 0 to 9999 and an offset of whole minutes.

`Timestamp.add?` adds a number of seconds; the local date has to stay within the years from -9999 to
9999.
-/

set_option autoImplicit false
set_option relaxedAutoImplicit false

namespace ResourceLookup

open Calendar

/-- The number of seconds in a day. -/
def secondsPerDay : Nat := 86400

/-- A point in time: local nanoseconds since the beginning of year 0, and the offset of local time
from universal time in seconds. -/
structure Timestamp where
  localNanos : Int
  offset : Int
  deriving DecidableEq

namespace Timestamp

/-- Nanoseconds since the beginning of year 0 in universal time. -/
def instant (time : Timestamp) : Int :=
  time.localNanos - time.offset * nanosPerSecond

/-- Whether the first point in time is not after the second one. -/
def notAfter (first second : Timestamp) : Bool :=
  first.instant ≤ second.instant

/-- The number of nanoseconds in a day. -/
def nanosPerDay : Int := secondsPerDay * nanosPerSecond

/-- The first nanosecond of the year -9999. -/
def earliest : Int := firstDayOfYear (-9999) * nanosPerDay

/-- The first nanosecond after the year 9999. -/
def afterLatest : Int := firstDayOfYear 10000 * nanosPerDay

/-- Whether the local date lies within the years from -9999 to 9999. -/
def representable (localNanos : Int) : Bool :=
  earliest ≤ localNanos && localNanos < afterLatest

/-- The point in time so many seconds later, unless the local date leaves the calendar. -/
def add? (time : Timestamp) (seconds : Int) : Option Timestamp :=
  let later := time.localNanos + seconds * nanosPerSecond
  if representable later then some ⟨later, time.offset⟩ else none

/-- The local nanoseconds of a date and a time of day. -/
def ofCivil (date : CivilDate) (hour minute second nanos : Nat) : Int :=
  date.dayNumber * nanosPerDay +
    (((hour * 60 + minute) * 60 + second) * nanosPerSecond + nanos : Nat)

/-- The date of a number of local nanoseconds. -/
def dateOf (localNanos : Int) : CivilDate :=
  CivilDate.ofDayNumber (localNanos.fdiv nanosPerDay)

/-- The nanoseconds since midnight. -/
def timeOfDay (localNanos : Int) : Nat :=
  (localNanos.fmod nanosPerDay).toNat

/-! ### Writing -/

/-- A number with at least `width` digits. -/
def padded (width value : Nat) : List Char :=
  let digits := Nat.toDigits 10 value
  List.replicate (width - digits.length) '0' ++ digits

/-- The fraction of a second behind its point, without zeros at the end; nothing for none. -/
def writeFraction (nanos : Nat) : List Char :=
  if nanos == 0 then [] else '.' :: Duration.fractionDigits 9 nanos

/-- The offset: `Z` for none, else sign, hours and minutes. -/
def writeOffset (offset : Int) : List Char :=
  if offset == 0 then ['Z']
  else
    let minutes := offset.natAbs / 60
    (if offset < 0 then '-' else '+') :: (padded 2 (minutes / 60) ++ ':' :: padded 2 (minutes % 60))

/-- The text of a point in time, if the format has one. -/
def write? (time : Timestamp) : Option String :=
  let date := dateOf time.localNanos
  let clock := timeOfDay time.localNanos
  let seconds := clock / nanosPerSecond
  if date.year < 0 || 9999 < date.year || time.offset % 60 != 0 || 86400 ≤ time.offset.natAbs then
    none
  else
    some <| String.ofList <|
      padded 4 date.year.toNat ++ '-' :: padded 2 date.month ++ '-' :: padded 2 date.day ++
        'T' :: padded 2 (seconds / 3600) ++ ':' :: padded 2 (seconds / 60 % 60) ++
        ':' :: padded 2 (seconds % 60) ++ writeFraction (clock % nanosPerSecond) ++
        writeOffset time.offset

/-! ### Reading -/

/-- A number of exactly `count` digits, and the text behind it. -/
def takeNumber? (count : Nat) (text : List Char) : Option (Nat × List Char) :=
  let digits := text.take count
  if digits.length == count && digits.all Text.isAsciiDigit then
    some (digits.foldl (fun total c ↦ total * 10 + Text.digitValue c) 0, text.drop count)
  else none

/-- The text behind the given character. -/
def takeMark? (mark : Char) : List Char → Option (List Char)
  | c :: rest => if c == mark then some rest else none
  | [] => none

/-- The text behind any single character of one octet. -/
def takeSeparator? : List Char → Option (List Char)
  | c :: rest => if c.toNat < 128 then some rest else none
  | [] => none

/-- Nine digits of a fraction as nanoseconds; missing ones are zero. -/
def fractionNanos (digits : List Char) : Nat :=
  ((digits ++ List.replicate 9 '0').take 9).foldl
    (fun total c ↦ total * 10 + Text.digitValue c) 0

/-- The fraction of a second, if there is one; at least one digit has to follow the point. -/
def takeFraction? (text : List Char) : Option (Nat × List Char) :=
  match text with
  | '.' :: rest =>
    let digits := rest.takeWhile Text.isAsciiDigit
    if digits.isEmpty then none
    else some (fractionNanos digits, rest.dropWhile Text.isAsciiDigit)
  | _ => some (0, text)

/-- The offset at the end of the text, in seconds. -/
def takeOffset? (text : List Char) : Option Int :=
  match text with
  | [] => none
  | sign :: rest =>
    if sign == 'Z' || sign == 'z' then if rest.isEmpty then some 0 else none
    else if sign == '+' || sign == '-' then do
      let (hours, rest) ← takeNumber? 2 rest
      let rest ← takeMark? ':' rest
      let (minutes, rest) ← takeNumber? 2 rest
      if hours ≤ 23 && minutes ≤ 59 && rest.isEmpty then
        let seconds : Int := (hours * 60 + minutes : Nat) * 60
        some (if sign == '-' then -seconds else seconds)
      else none
    else none

/-- Whether a leap second can follow the point in time: it is the last nanosecond of a month in
universal time. -/
def endsMonth (time : Timestamp) : Bool :=
  let date := dateOf time.instant
  timeOfDay time.instant + 1 == secondsPerDay * nanosPerSecond &&
    date.day == daysInMonth date.year date.month

/-- The point in time of the parts read, a sixtieth second taken for the last nanosecond before
it. -/
def ofParts? (date : CivilDate) (hour minute second nanos : Nat) (offset : Int) :
    Option Timestamp :=
  let isLeap := second == 60
  let second := if isLeap then 59 else second
  let nanos := if isLeap then nanosPerSecond - 1 else nanos
  if date.valid && hour ≤ 23 && minute ≤ 59 && second ≤ 59 then
    let time : Timestamp := ⟨ofCivil date hour minute second nanos, offset⟩
    if isLeap && !endsMonth time then none else some time
  else none

/-- The point in time that a text gives. -/
def parseChars? (text : List Char) : Option Timestamp := do
  let (year, text) ← takeNumber? 4 text
  let text ← takeMark? '-' text
  let (month, text) ← takeNumber? 2 text
  let text ← takeMark? '-' text
  let (day, text) ← takeNumber? 2 text
  let text ← takeSeparator? text
  let (hour, text) ← takeNumber? 2 text
  let text ← takeMark? ':' text
  let (minute, text) ← takeNumber? 2 text
  let text ← takeMark? ':' text
  let (second, text) ← takeNumber? 2 text
  let (nanos, text) ← takeFraction? text
  let offset ← takeOffset? text
  ofParts? ⟨year, month, day⟩ hour minute second nanos offset

/-- The point in time that a text gives. -/
def parse? (text : String) : Option Timestamp :=
  parseChars? text.toList

/-- A point in time in a JSON value. -/
def decode : Json → Json.Decoded Timestamp
  | .string text =>
    match parse? text with
    | some time => .ok time
    | none =>
      .error (.outOfRange (Json.describe (.string text)) "an RFC3339-formatted date and time")
  | other => .error (.wrongKind other.describe "an RFC3339-formatted date and time")

end Timestamp

end ResourceLookup
