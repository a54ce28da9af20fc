import Curator.Time.Scan
import Curator.Time.Timestamp

/-! Dates as the internet writes them: `2014-02-24T05:57:39.5+01:00`. A strict reader, a lenient one
that also takes signed years and blanks between the fields, and the printer. -/
namespace Curator.InternetDate

open Scan

/-- Take the hours, minutes and seconds of a time of day, with nothing between the fields. -/
def clock : Scan (Nat × Nat × Nat × Nat) := do
  let hour ← number 2 2
  exactly ':'
  let minute ← number 2 2
  exactly ':'
  let second ← number 2 2
  let nanos ← optionalFraction
  return (hour, minute, second, nanos)

/-- The letter or the blank between date and time. -/
def divider : Scan Unit := do
  match ← peek with
  | some ' ' => exactly ' '
  | _ => eitherOf 'T' 't'

/-- A zone: the letter `Z`, or an offset whose fields `between` separates. -/
def zone (between : Scan Unit) : Scan Int := do
  match ← optionally (eitherOf 'Z' 'z') with
  | some () => return 0
  | none => offset between true

/-- A date with its time and zone, every field with its full number of digits. -/
def written : Scan WrittenTime := do
  let year ← number 4 4
  exactly '-'
  let month ← number 2 2
  exactly '-'
  let day ← number 2 2
  divider
  let (hour, minute, second, nanos) ← clock
  let offsetMinutes ← zone (exactly ':')
  return { date := { year, month, day }, hour, minute, second, nanos, offsetMinutes }

def read? (text : List Char) : Option Timestamp :=
  (written.whole text).bind WrittenTime.instant?

/-- A number of up to `most` digits, after any blanks. -/
def field (most : Nat) : Scan Nat := do
  blanks
  number 1 most

/-- A year of up to four digits, or of any number of digits after a sign. -/
def signedYear : Scan Int := do
  blanks
  let text ← get
  match text with
  | '-' :: rest =>
    set rest
    return -(← number 1 text.length : Nat)
  | '+' :: rest =>
    set rest
    return (← number 1 text.length : Nat)
  | _ => return (← number 1 4 : Nat)

/-- The word for universal time in any case, or a zone with colons and blanks in it. -/
def lenientZone : Scan Int := do
  let text ← get
  if Text.equalsIgnoringCase (text.take 3) "utc".toList then
    set (text.drop 3)
    return 0
  else
    zone (modify (·.dropWhile fun character => character == ':' || Text.isWhiteSpace character))

/-- A date with its time and zone and blanks between the fields. -/
def lenientlyWritten : Scan WrittenTime := do
  let year ← signedYear
  blanks
  exactly '-'
  let month ← field 2
  blanks
  exactly '-'
  let day ← field 2
  divider
  let hour ← field 2
  blanks
  exactly ':'
  let minute ← field 2
  blanks
  exactly ':'
  let second ← field 2
  let nanos ← optionalFraction
  blanks
  let offsetMinutes ← lenientZone
  blanks
  return { date := { year, month, day }, hour, minute, second, nanos, offsetMinutes }

/-- The instant of a date written with some freedom. -/
def readLeniently? (text : List Char) : Option Timestamp :=
  (lenientlyWritten.whole text).bind WrittenTime.instant?

/-- A number filled up with zeros in front to at least `width` digits. -/
def padded (width number : Nat) : List Char :=
  let digits := Nat.toDigits 10 number
  List.replicate (width - digits.length) '0' ++ digits

/-- A year: four digits from 0 to 9999, else a sign and at least four digits. -/
def renderYear (year : Int) : List Char :=
  if year < 0 then '-' :: padded 4 year.natAbs
  else if 9999 < year then '+' :: padded 4 year.natAbs
  else padded 4 year.natAbs

/-- The fraction of a second: no digits, or three, six or nine, the fewest that hold it. -/
def renderFraction (nanos : Nat) : List Char :=
  if nanos = 0 then []
  else if nanos % 1000000 = 0 then '.' :: padded 3 (nanos / 1000000)
  else if nanos % 1000 = 0 then '.' :: padded 6 (nanos / 1000)
  else '.' :: padded 9 nanos

def renderDate (date : Date) : List Char :=
  renderYear date.year ++ '-' :: padded 2 date.month ++ '-' :: padded 2 date.day

/-- Hour, minute, second and fraction; a leap second is the 60th. -/
def renderClock (instant : Timestamp) : List Char :=
  let second := instant.secondOfDay % 60 + instant.nanos / nanosPerSecond
  padded 2 (instant.secondOfDay / 3600) ++ ':' :: padded 2 (instant.secondOfDay / 60 % 60) ++
    ':' :: padded 2 second ++ renderFraction (instant.nanos % nanosPerSecond)

/-- Date and time with a letter between them, and the zone. -/
def renderWith (zone : String) (instant : Timestamp) : List Char :=
  renderDate instant.date ++ 'T' :: renderClock instant ++ zone.toList

def render (instant : Timestamp) : List Char :=
  renderWith "Z" instant

def renderNumeric (instant : Timestamp) : List Char :=
  renderWith "+00:00" instant

/-- The instant with blanks between its parts, as people read it. -/
def renderSpaced (instant : Timestamp) : List Char :=
  renderDate instant.date ++ ' ' :: renderClock instant ++ " UTC".toList

end Curator.InternetDate
