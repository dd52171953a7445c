/-!
# The calendar

Dates of the proleptic Gregorian calendar and their day numbers. `dayNumber` counts the days from
the first of January of year 0 in years of 365 days with the leap days that have passed;
`CivilDate.ofDayNumber` finds the date again by the year in which the day lies. The difference of
two day numbers is the number of days between two dates.
-/

set_option autoImplicit false
set_option relaxedAutoImplicit false

namespace ResourceLookup.Calendar

/-- Whether a year has a leap day. -/
def isLeapYear (year : Int) : Bool :=
  year % 4 == 0 && (year % 100 != 0 || year % 400 == 0)

/-- The number of days of a month, counted from one. -/
def daysInMonth (year : Int) (month : Nat) : Nat :=
  match month with
  | 2 => if isLeapYear year then 29 else 28
  | 4 | 6 | 9 | 11 => 30
  | _ => 31

/-- The days of a year. -/
def daysInYear (year : Int) : Nat :=
  if isLeapYear year then 366 else 365

/-- The day number of the first of January of a year: the days of all years before it, counted from
year 0. -/
def firstDayOfYear (year : Int) : Int :=
  let before := year - 1
  365 * year + before.fdiv 4 - before.fdiv 100 + before.fdiv 400 + 1

/-- The days of the months of a year before the given one. -/
def daysBeforeMonth (year : Int) (month : Nat) : Nat :=
  (List.range (month - 1)).foldl (fun days index ↦ days + daysInMonth year (index + 1)) 0

/-- A date: year, month and day of the month, both counted from one. -/
structure CivilDate where
  year : Int
  month : Nat
  day : Nat
  deriving DecidableEq

/-- Whether the month exists and has the day. -/
def CivilDate.valid (date : CivilDate) : Bool :=
  1 ≤ date.month && date.month ≤ 12 && 1 ≤ date.day &&
    date.day ≤ daysInMonth date.year date.month

/-- The number of a day. -/
def CivilDate.dayNumber (date : CivilDate) : Int :=
  firstDayOfYear date.year + daysBeforeMonth date.year date.month + date.day - 1

/-- The year in which a day lies: the estimate from the mean length of a year is off by one at
most. -/
def yearOfDay (day : Int) : Int :=
  let estimate := (day * 400).fdiv 146097
  if firstDayOfYear (estimate + 1) ≤ day then estimate + 1
  else if firstDayOfYear estimate ≤ day then estimate
  else estimate - 1

/-- The month and the day of the month of a day of the year, counted from zero. -/
def monthOfDay (year : Int) (month rest : Nat) : Nat → Nat × Nat
  | 0 => (month, rest + 1)
  | steps + 1 =>
    if daysInMonth year month ≤ rest then
      monthOfDay year (month + 1) (rest - daysInMonth year month) steps
    else (month, rest + 1)

/-- The date of a day number. -/
def CivilDate.ofDayNumber (day : Int) : CivilDate :=
  let year := yearOfDay day
  let (month, dayOfMonth) := monthOfDay year 1 (day - firstDayOfYear year).toNat 11
  ⟨year, month, dayOfMonth⟩

end ResourceLookup.Calendar
