import Curator.Time.InternetDate

/-! Dates without a zone, read as universal time. Blanks may stand between the fields and be left
out between date and time, and the fields may have fewer digits. -/
namespace Curator.PlainDate

open Scan InternetDate

inductive Layout where
  /-- As in `Mon, 24 Feb 2014 05:57:39`. -/
  | weekdayFirst
  /-- As in `24 Feb 2014 05:57:39`. -/
  | dayFirst
  /-- As in `2014-02-24 05:57:39`. -/
  | yearFirst
  /-- As in `2014-02-24T05:57:39`. -/
  | yearFirstLetter
deriving DecidableEq, Repr

def clock : Scan (Nat × Nat × Nat) := do
  let hour ← field 2
  exactly ':'
  let minute ← field 2
  exactly ':'
  let second ← field 2
  return (hour, minute, second)

def dayFirst (weekday : Option Nat) : Scan WrittenTime := do
  let day ← field 2
  blanks
  let month ← month
  blanks
  let year ← signedYear
  blanks
  let (hour, minute, second) ← clock
  return { date := { year, month, day }, hour, minute, second, weekday }

def yearFirst (divider : Scan Unit) : Scan WrittenTime := do
  let year ← signedYear
  exactly '-'
  let month ← field 2
  exactly '-'
  let day ← field 2
  divider
  let (hour, minute, second) ← clock
  return { date := { year, month, day }, hour, minute, second }

/-- A date in one of the layouts. -/
def written : Layout → Scan WrittenTime
  | .weekdayFirst => do
    let day ← weekday
    exactly ','
    blanks
    dayFirst (some day)
  | .dayFirst => dayFirst none
  | .yearFirst => yearFirst blanks
  | .yearFirstLetter => yearFirst (exactly 'T')

def read? (layout : Layout) (text : List Char) : Option Timestamp :=
  ((written layout).whole text).bind WrittenTime.instant?

end Curator.PlainDate
