/-!
# Shortest decimal text of a floating point number

A finite binary number of 64 bits is written with the fewest decimal digits that read back as the
same number, and of the candidates with that many digits the nearest one. `Decimal.shortest` finds
the digits in exact arithmetic on natural numbers: it takes the interval of reals that round to the
number and tries the two neighbours of the number on the decimal grids of 1, 2, … 17 digits.

How digits become text is a `Decimal.Layout`: up to which exponent they are written positionally,
and how the exponent is marked otherwise. `Layout.json` is the layout of JSON documents and
`Layout.query` that of query strings; they differ in the sign of a positive exponent only.
-/

set_option autoImplicit false
set_option relaxedAutoImplicit false

namespace ResourceLookup.Decimal

/-- A positive binary number `mantissa * 2 ^ exponent`, and whether its lower neighbour is only half
as far away as its upper one. -/
structure Binary where
  mantissa : Nat
  exponent : Int
  closeBelow : Bool

/-- Sign and magnitude of a finite floating point number; no magnitude stands for zero. -/
def decompose (value : Float) : Bool × Option Binary :=
  let bits := value.toBits.toNat
  let negative := bits / Nat.pow 2 63 == 1
  let field := bits / Nat.pow 2 52 % 2048
  let fraction := bits % Nat.pow 2 52
  if field == 0 then
    if fraction == 0 then (negative, none)
    else (negative, some ⟨fraction, -1074, false⟩)
  else
    (negative, some ⟨fraction + Nat.pow 2 52, Int.ofNat field - 1075, fraction == 0 && field != 1⟩)

/-- The quotient `numerator / denominator`, a positive rational number. -/
structure Ratio where
  numerator : Nat
  denominator : Nat

/-- A quarter of the binary number's unit, times `quarters`. -/
def quarterUnits (exponent : Int) (quarters : Nat) : Ratio :=
  let shifted := exponent - 2
  if 0 ≤ shifted then ⟨quarters * Nat.pow 2 shifted.toNat, 1⟩
  else ⟨quarters, Nat.pow 2 (-shifted).toNat⟩

/-- `first ≤ second`. -/
def Ratio.le (first second : Ratio) : Bool :=
  first.numerator * second.denominator ≤ second.numerator * first.denominator

/-- `first < second`. -/
def Ratio.lt (first second : Ratio) : Bool :=
  first.numerator * second.denominator < second.numerator * first.denominator

/-- `digits * 10 ^ power`. -/
def scaled (digits : Nat) (power : Int) : Ratio :=
  if 0 ≤ power then ⟨digits * Nat.pow 10 power.toNat, 1⟩
  else ⟨digits, Nat.pow 10 (-power).toNat⟩

/-- The largest natural number whose product with `10 ^ power` does not exceed the ratio. -/
def Ratio.floorAt (value : Ratio) (power : Int) : Nat :=
  if 0 ≤ power then value.numerator / (value.denominator * Nat.pow 10 power.toNat)
  else value.numerator * Nat.pow 10 (-power).toNat / value.denominator

/-- The exponent of the leading decimal digit: the `e` with `10 ^ e ≤ value < 10 ^ (e + 1)`. -/
def Ratio.magnitude (value : Ratio) : Int :=
  if value.denominator ≤ value.numerator then
    ((Nat.toDigits 10 (value.numerator / value.denominator)).length : Int) - 1
  else
    let places := (Nat.toDigits 10 (value.denominator / value.numerator)).length
    if value.denominator ≤ value.numerator * Nat.pow 10 (places - 1) then -((places : Int) - 1)
    else -(places : Int)

/-- Digits of a positive decimal number and the exponent of the last one: `digits * 10 ^ power`. -/
structure Digits where
  digits : Nat
  power : Int

/-- The distance between two ratios. -/
def distance (first second : Ratio) : Ratio :=
  let a := first.numerator * second.denominator
  let b := second.numerator * first.denominator
  ⟨max a b - min a b, first.denominator * second.denominator⟩

/-- The neighbour of the number on the grid of step `10 ^ power` that reads back, the nearer one if
both do and the even one of two equally near. -/
def onGrid? (number : Binary) (power : Int) : Option Digits :=
  let value := quarterUnits number.exponent (4 * number.mantissa)
  let low := quarterUnits number.exponent
    (4 * number.mantissa - (if number.closeBelow then 1 else 2))
  let high := quarterUnits number.exponent (4 * number.mantissa + 2)
  let even := number.mantissa % 2 == 0
  let readsBack (digits : Nat) : Bool :=
    let point := scaled digits power
    digits != 0 &&
      if even then low.le point && point.le high else low.lt point && point.lt high
  let below := value.floorAt power
  let above := below + 1
  let belowDistance := distance value (scaled below power)
  let aboveDistance := distance value (scaled above power)
  if readsBack below && readsBack above then
    if belowDistance.lt aboveDistance then some ⟨below, power⟩
    else if aboveDistance.lt belowDistance then some ⟨above, power⟩
    else if below % 2 == 0 then some ⟨below, power⟩ else some ⟨above, power⟩
  else if readsBack below then some ⟨below, power⟩
  else if readsBack above then some ⟨above, power⟩
  else none

/-- The first grid, from coarse to fine, with a neighbour that reads back. -/
def firstGrid (number : Binary) (magnitude : Int) : Nat → Nat → Digits
  | 0, _ => ⟨number.mantissa, 0⟩
  | more + 1, count =>
    match onGrid? number (magnitude - Int.ofNat count + 1) with
    | some found => found
    | none => firstGrid number magnitude more (count + 1)

/-- The shortest digits that read back as the number. -/
def shortest (number : Binary) : Digits :=
  firstGrid number (quarterUnits number.exponent (4 * number.mantissa)).magnitude 18 1

/-- Without zeros at the end of the digits. -/
def stripZeros (digits : Nat) (power : Int) : Nat → Digits
  | 0 => ⟨digits, power⟩
  | steps + 1 =>
    if digits != 0 && digits % 10 == 0 then stripZeros (digits / 10) (power + 1) steps
    else ⟨digits, power⟩

/-- How decimal digits are written: numbers whose leading exponent lies between `lowest` and
`highest` positionally with at least one decimal place, all others with an exponent, which has an
explicit sign also if it is positive where `plusSign` holds. -/
structure Layout where
  lowest : Int
  highest : Int
  plusSign : Bool

/-- The layout of numbers in JSON documents. -/
def Layout.json : Layout := ⟨-5, 15, true⟩

/-- The layout of numbers in query strings. -/
def Layout.query : Layout := ⟨-5, 15, false⟩

/-- The text of the digits in the layout. -/
def Layout.write (layout : Layout) (number : Digits) : List Char :=
  let digits := Nat.toDigits 10 number.digits
  let leading := number.power + (digits.length : Int) - 1
  if layout.lowest ≤ leading && leading ≤ layout.highest then
    if 0 ≤ number.power then digits ++ List.replicate number.power.toNat '0' ++ ['.', '0']
    else if 0 ≤ leading then
      digits.take (leading.toNat + 1) ++ ['.'] ++ digits.drop (leading.toNat + 1)
    else ['0', '.'] ++ List.replicate ((-leading).toNat - 1) '0' ++ digits
  else
    let head := digits.take 1
    let tail := digits.drop 1
    let point := if tail.isEmpty then [] else '.' :: tail
    let sign := if leading < 0 then ['-'] else if layout.plusSign then ['+'] else []
    head ++ point ++ ['e'] ++ sign ++ Nat.toDigits 10 leading.natAbs

/-- The shortest text of a finite floating point number. -/
def text (layout : Layout) (value : Float) : List Char :=
  match decompose value with
  | (negative, none) => (if negative then ['-'] else []) ++ ['0', '.', '0']
  | (negative, some number) =>
    let found := shortest number
    let found := stripZeros found.digits found.power 20
    (if negative then ['-'] else []) ++ layout.write found

end ResourceLookup.Decimal
