import ResourceLookup.Json.Decode

/-!
# Durations

A duration is a number of nanoseconds of at most `2^64 - 1` whole seconds and a fraction. The bound
is part of the type; operations that could exceed it say so (`Duration.ofNanos?`, `Duration.add?`).

`Duration.diagnostic` is the written form in diagnostic texts: the largest unit of seconds,
milliseconds, microseconds and nanoseconds in which the whole part is not zero, with the fraction
behind a point and without zeros at its end.
-/

set_option autoImplicit false
set_option relaxedAutoImplicit false

namespace ResourceLookup

/-- The number of nanoseconds in a second. -/
def nanosPerSecond : Nat := 1000000000

/-- A span of time in nanoseconds, of less than `2^64` seconds. -/
structure Duration where
  nanos : Nat
  bounded : nanos < Nat.pow 2 64 * 1000000000 := by decide
  deriving DecidableEq

namespace Duration

/-- No time at all. -/
def zero : Duration := ⟨0, by decide⟩

/-- The longest duration. -/
def max : Duration := ⟨Nat.pow 2 64 * 1000000000 - 1, by decide⟩

/-- A duration of so many nanoseconds, if they are not too many. -/
def ofNanos? (nanos : Nat) : Option Duration :=
  if h : nanos < Nat.pow 2 64 * 1000000000 then some ⟨nanos, h⟩ else none

/-- A duration of so many nanoseconds, or the longest one. -/
def ofNanos (nanos : Nat) : Duration :=
  (ofNanos? nanos).getD max

/-- A duration of whole seconds, or the longest one. -/
def ofSeconds (seconds : Nat) : Duration :=
  ofNanos (seconds * nanosPerSecond)

/-- A duration of whole milliseconds, or the longest one. -/
def ofMillis (millis : Nat) : Duration :=
  ofNanos (millis * 1000000)

/-- The whole seconds. -/
def seconds (duration : Duration) : Nat :=
  duration.nanos / nanosPerSecond

/-- The nanoseconds beyond the whole seconds. -/
def subsecond (duration : Duration) : Nat :=
  duration.nanos % nanosPerSecond

/-- The whole milliseconds. -/
def millis (duration : Duration) : Nat :=
  duration.nanos / 1000000

/-- The milliseconds, a started one counted as a whole. -/
def millisRoundedUp (duration : Duration) : Nat :=
  (duration.nanos + 999999) / 1000000

/-- The sum of two durations, if it is one. -/
def add? (first second : Duration) : Option Duration :=
  ofNanos? (first.nanos + second.nanos)

/-- The digits of a fraction of `width` places, without zeros at the end. -/
def fractionDigits (width fraction : Nat) : List Char :=
  let digits := Nat.toDigits 10 fraction
  let padded := List.replicate (width - digits.length) '0' ++ digits
  (padded.reverse.dropWhile (· == '0')).reverse

/-- A number of units with a fraction, and the name of the unit. -/
def writeDecimal (whole width fraction : Nat) (unit : String) : String :=
  let point := if fraction == 0 then [] else '.' :: fractionDigits width fraction
  toString whole ++ String.ofList point ++ unit

/-- The written form in diagnostic texts. -/
def diagnostic (duration : Duration) : String :=
  let nanos := duration.nanos
  if nanosPerSecond ≤ nanos then writeDecimal duration.seconds 9 duration.subsecond "s"
  else if 1000000 ≤ nanos then writeDecimal (nanos / 1000000) 6 (nanos % 1000000) "ms"
  else if 1000 ≤ nanos then writeDecimal (nanos / 1000) 3 (nanos % 1000) "µs"
  else writeDecimal nanos 0 0 "ns"

end Duration

end ResourceLookup
