import ResourceLookup.Decimal.Shortest
import ResourceLookup.Time.HumanDuration

/-!
# Pauses between attempts

How often a failed call is repeated (`RetrySettings`) and how long to wait before each repetition
(`Backoff`): the initial pause times a power of the multiplier, at most the longest pause and never
more than a day. Pauses are computed in binary floating point numbers, a power by repeated squaring
(`powerBySquaring`), and rounded to the nearest nanosecond, a half to the even one (`nearestNanos`).
Settings that are no usable numbers fall back to safe values. With jitter a share of up to a quarter
of the pause is added (`Backoff.pause`); the shares are drawn at random, so that they come from a
`JitterSource`. `Backoff.longestDelay` bounds what then can come out.
-/

set_option autoImplicit false
set_option relaxedAutoImplicit false

namespace ResourceLookup

/-- Draws the share of a pause that jitter adds, from nothing to a quarter; the number counts the
draws before. -/
abbrev JitterSource := Nat → Float

/-- Never adds anything. -/
def JitterSource.none : JitterSource := fun _ ↦ 0.0

/-- The pause before each repetition of a call. -/
structure Backoff where
  initial : Duration
  longest : Duration
  multiplier : Float
  jitter : Bool

namespace Backoff

/-- A fixed pause of 200 milliseconds. -/
def standard : Backoff :=
  ⟨Duration.ofMillis 200, Duration.ofSeconds 5, 1.0, false⟩

/-- A pause that doubles each time, with jitter. -/
def exponential (initial longest : Duration) : Backoff :=
  ⟨initial, longest, 2.0, true⟩

/-- A fixed pause of one millisecond. -/
def fast : Backoff :=
  ⟨Duration.ofMillis 1, Duration.ofMillis 1, 1.0, false⟩

/-- The seconds of a day; longer pauses are taken for a mistake. -/
def dayInSeconds : Float := 86400.0

/-- The number of seconds of a duration as a floating point number. -/
def secondsOf (duration : Duration) : Float :=
  (UInt64.ofNat duration.seconds).toFloat + (UInt64.ofNat duration.subsecond).toFloat / 1e9

/-- A number that is finite and not negative. -/
def usable? (value : Float) : Option Float :=
  if value.isFinite && value >= 0.0 then some value else none

/-- `result * base ^ exponent` by repeated squaring of the base; `steps` bounds the number of binary
digits of the exponent. -/
def powerLoop (result base : Float) (exponent : Nat) : Nat → Float
  | 0 => result
  | steps + 1 =>
    let result := if exponent % 2 == 1 then result * base else result
    if exponent / 2 == 0 then result else powerLoop result (base * base) (exponent / 2) steps

/-- A power of a floating point number by repeated squaring. -/
def powerBySquaring (base : Float) (exponent : Nat) : Float :=
  powerLoop 1.0 base exponent 64

/-- The natural number nearest to a quotient, a half rounded to the even one. -/
def roundHalfEven (numerator denominator : Nat) : Nat :=
  let quotient := numerator / denominator
  let rest := 2 * (numerator % denominator)
  if rest < denominator then quotient
  else if denominator < rest then quotient + 1
  else if quotient % 2 == 0 then quotient else quotient + 1

/-- The nanoseconds nearest to a number of seconds that is not negative. -/
def nearestNanos (seconds : Float) : Nat :=
  match Decimal.decompose seconds with
  | (_, none) => 0
  | (_, some number) =>
    let scaled := number.mantissa * nanosPerSecond
    if 0 ≤ number.exponent then scaled * Nat.pow 2 number.exponent.toNat
    else roundHalfEven scaled (Nat.pow 2 (-number.exponent).toNat)

/-- The largest exponent that is used. -/
def exponentLimit : Nat := Nat.pow 2 31 - 1

/-- The number of seconds of a pause, at most `cap`. -/
def cappedSeconds (raw cap : Float) : Float :=
  if raw.isFinite then
    if raw < 0.0 then 0.0 else if raw > cap then cap else raw
  else cap

/-- The longest pause in seconds. -/
def cap (backoff : Backoff) : Float :=
  match usable? (secondsOf backoff.longest) with
  | some longest => if longest < dayInSeconds then longest else dayInSeconds
  | none => dayInSeconds

/-- The pause before the repetition with that number, counted from zero, without jitter. -/
def delay (backoff : Backoff) (attempt : Nat) : Duration :=
  let exponent := min attempt exponentLimit
  let multiplier := (usable? backoff.multiplier).getD 1.0
  let initial := (usable? (secondsOf backoff.initial)).getD 0.0
  let raw := initial * powerBySquaring multiplier exponent
  Duration.ofNanos (nearestNanos (cappedSeconds raw backoff.cap))

/-- A pause with a share of itself added, at most a day. -/
def stretch (pause : Duration) (share : Float) : Duration :=
  let stretched := secondsOf pause * (1.0 + share)
  Duration.ofNanos (nearestNanos (if stretched < dayInSeconds then stretched else dayInSeconds))

/-- The longest pause that jitter can make of a pause: a quarter more, at most a day. -/
def longestDelay (pause : Duration) : Duration :=
  stretch pause 0.25

/-- The pause before the repetition with that number, counted from zero; with jitter the drawn share
of the pause is added. -/
def pause (backoff : Backoff) (attempt : Nat) (share : Float) : Duration :=
  if backoff.jitter then stretch (backoff.delay attempt) share else backoff.delay attempt

/-- The names of the members of the settings. -/
def memberNames : List String := ["initial", "max", "multiplier", "jitter"]

/-- The settings in a JSON value; members that are left out have their defaults. -/
def decode (surplus : Json.Surplus) (value : Json) : Json.Decoded Backoff := do
  let fields ← Json.record "backoff settings" memberNames true surplus value
  let initial ← fields.withDefault "initial" standard.initial HumanDuration.decode
  let longest ← fields.withDefault "max" standard.longest HumanDuration.decode
  let multiplier ← fields.withDefault "multiplier" standard.multiplier Json.asReal
  let jitter ← fields.withDefault "jitter" standard.jitter Json.asBool
  pure ⟨initial, longest, multiplier, jitter⟩

/-- A floating point number as a JSON value; one that is not finite has none. -/
def encodeReal (value : Float) : Json :=
  if value.isFinite then .number (.real value) else .null

/-- The settings as a JSON value. -/
def encode (backoff : Backoff) : Json :=
  .object
    [("initial", HumanDuration.encode backoff.initial),
     ("max", HumanDuration.encode backoff.longest),
     ("multiplier", encodeReal backoff.multiplier),
     ("jitter", .bool backoff.jitter)]

end Backoff

/-- How often a failed call is repeated, and after which pauses. -/
structure RetrySettings where
  retries : Nat
  backoff : Backoff

namespace RetrySettings

/-- One repetition. -/
def standard : RetrySettings := ⟨1, Backoff.standard⟩

/-- No repetition. -/
def disabled : RetrySettings := ⟨0, Backoff.standard⟩

/-- So many repetitions, without noticeable pauses. -/
def fast (retries : Nat) : RetrySettings := ⟨retries, Backoff.fast⟩

/-- The names of the members of the settings. -/
def memberNames : List String := ["retries", "backoff"]

/-- The settings in a JSON value; members that are left out have their defaults. -/
def decode (surplus : Json.Surplus) (value : Json) : Json.Decoded RetrySettings := do
  let fields ← Json.record "retry settings" memberNames true surplus value
  let retries ← fields.withDefault "retries" standard.retries Json.asNat64
  let backoff ← fields.withDefault "backoff" standard.backoff (Backoff.decode surplus)
  pure ⟨retries, backoff⟩

/-- The settings as a JSON value. -/
def encode (settings : RetrySettings) : Json :=
  .object
    [("retries", Json.ofNat settings.retries), ("backoff", settings.backoff.encode)]

end RetrySettings

end ResourceLookup
