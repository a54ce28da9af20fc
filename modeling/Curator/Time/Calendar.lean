/-! The Gregorian calendar carried on in both directions. Dates correspond to day numbers counted
from 1970-01-01; years are shifted to begin in March, so that the leap day comes last. -/
namespace Curator

/-- A day of the calendar. -/
structure Date where
  year : Int
  month : Nat
  day : Nat
deriving DecidableEq, Repr

namespace Date

/-- Every fourth year is a leap year, of the full centuries only every fourth. -/
def isLeapYear (year : Int) : Bool :=
  year % 4 == 0 && (year % 100 != 0 || year % 400 == 0)

def daysInMonth (year : Int) : Nat → Nat
  | 2 => if isLeapYear year then 29 else 28
  | 4 | 6 | 9 | 11 => 30
  | _ => 31

def yearInRange (year : Int) : Bool :=
  -262143 ≤ year && year ≤ 262142

def isValid (date : Date) : Bool :=
  yearInRange date.year && 1 ≤ date.month && date.month ≤ 12 && 1 ≤ date.day &&
    date.day ≤ daysInMonth date.year date.month

def daysBeforeMonth (monthFromMarch : Nat) : Nat :=
  (153 * monthFromMarch + 2) / 5

def daysBeforeYear (year : Int) : Int :=
  365 * year + year / 4 - year / 100 + year / 400

/-- Days from the first of March of the year 0 to 1970-01-01. -/
def epochOffset : Int := 719468

/-- The number of a day, counted from 1970-01-01. -/
def toDays (date : Date) : Int :=
  let year := if date.month ≤ 2 then date.year - 1 else date.year
  let month := if date.month ≤ 2 then date.month + 9 else date.month - 3
  daysBeforeYear year + (daysBeforeMonth month + date.day - 1 : Nat) - epochOffset

/-- The year of a period of 400 years that a day of the period lies in. -/
def yearOfPeriod (dayOfPeriod : Nat) : Nat :=
  (dayOfPeriod - dayOfPeriod / 1460 + dayOfPeriod / 36524 - dayOfPeriod / 146096) / 365

def daysBeforeYearOfPeriod (year : Nat) : Nat :=
  365 * year + year / 4 - year / 100

def monthFromMarch (dayOfYear : Nat) : Nat :=
  (5 * dayOfYear + 2) / 153

/-- The day with a number: first the period of 400 years, then the year in it, then the month. -/
def ofDays (days : Int) : Date :=
  let shifted := days + epochOffset
  let period := shifted / 146097
  let dayOfPeriod := (shifted % 146097).toNat
  let yearOfPeriod := yearOfPeriod dayOfPeriod
  let dayOfYear := dayOfPeriod - daysBeforeYearOfPeriod yearOfPeriod
  let monthFromMarch := monthFromMarch dayOfYear
  let month := if monthFromMarch < 10 then monthFromMarch + 3 else monthFromMarch - 9
  let year := period * 400 + yearOfPeriod
  { year := if month ≤ 2 then year + 1 else year
    month
    day := dayOfYear - daysBeforeMonth monthFromMarch + 1 }

/-- The day of the week of a day number, Monday being 0. -/
def weekday (days : Int) : Nat :=
  ((days + 3) % 7).toNat

end Date

end Curator
