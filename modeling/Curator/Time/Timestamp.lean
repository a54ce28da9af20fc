import Curator.Time.Calendar

/-! Instants of universal time with nanoseconds. A leap second is kept as the 59th second of its
minute with 10⁹ nanoseconds or more; the order is by second, then by nanosecond. -/
namespace Curator

def nanosPerSecond : Nat := 1000000000

/-- An instant: seconds since 1970-01-01 and nanoseconds within the second. -/
structure Timestamp where
  seconds : Int
  nanos : Nat
  nanos_lt : nanos < 2000000000
  minute_end : 1000000000 ≤ nanos → seconds % 60 = 59
deriving DecidableEq, Repr

namespace Timestamp

theorem ext_iff {left right : Timestamp} :
    left = right ↔ left.seconds = right.seconds ∧ left.nanos = right.nanos := by
  cases left
  cases right
  simp

protected def compare (left right : Timestamp) : Ordering :=
  (compare left.seconds right.seconds).then (compare left.nanos right.nanos)

def before (left right : Timestamp) : Bool :=
  left.seconds < right.seconds || left.seconds == right.seconds && left.nanos < right.nanos

/-- Nanoseconds since 1970-01-01, a leap second running on past the end of its minute. -/
def position (instant : Timestamp) : Int :=
  instant.seconds * 1000000000 + instant.nanos

/-- The instant at a position, outside of any leap second. -/
def ofPosition (position : Int) : Timestamp where
  seconds := position / 1000000000
  nanos := (position % 1000000000).toNat
  nanos_lt := by omega
  minute_end := by omega

def ofSeconds (seconds : Int) : Timestamp :=
  ofPosition (seconds * 1000000000)

def epoch : Timestamp :=
  ofSeconds 0

def isLeap (instant : Timestamp) : Bool :=
  1000000000 ≤ instant.nanos

/-- Move an instant by nanoseconds. Less than a second that does not lead out of a leap second stays
in it; else the leap second does not count, whichever side it is left on. There are
no bounds: a sum past the last year that a clock can tell, where a program would break down, is an
instant like any other. -/
def add (instant : Timestamp) (amount : Int) : Timestamp :=
  if leap : 1000000000 ≤ instant.nanos then
    if stays : amount.tdiv 1000000000 = 0 ∧ instant.nanos + amount < 2000000000 then
      { seconds := instant.seconds
        nanos := (instant.nanos + amount).toNat
        nanos_lt := by omega
        minute_end := fun _ => instant.minute_end leap }
    else if 0 < amount then ofPosition (instant.position - 1000000000 + amount)
    else ofPosition (instant.position + amount)
  else ofPosition (instant.position + amount)

/-- Nanoseconds from one instant to another. A leap second counts as soon as both instants are at
different times of the day and the one in it comes first in the day. -/
def elapsed (since till : Timestamp) : Int :=
  let correction : Int :=
    if since.seconds % 86400 < till.seconds % 86400 && since.isLeap then 1
    else if till.seconds % 86400 < since.seconds % 86400 && till.isLeap then -1
    else 0
  (till.seconds - since.seconds + correction) * 1000000000 + (till.nanos - since.nanos : Int)

def date (instant : Timestamp) : Date :=
  Date.ofDays (instant.seconds / 86400)

def secondOfDay (instant : Timestamp) : Nat :=
  (instant.seconds % 86400).toNat

end Timestamp

/-- A wall clock reading as it was written, before it is known to exist. -/
structure WrittenTime where
  date : Date
  hour : Nat
  minute : Nat
  /-- From 0 to 59, or 60 for a leap second. -/
  second : Nat
  nanos : Nat := 0
  /-- Minutes that the clock is ahead of universal time. -/
  offsetMinutes : Int := 0
  /-- The day of the week that was written beside the date, Monday being 0. -/
  weekday : Option Nat := none
deriving Repr

namespace WrittenTime

/-- Seconds of universal time, a 60th second being the 59th. -/
def seconds (time : WrittenTime) : Int :=
  (time.date.toDays * 1440 + time.hour * 60 + time.minute - time.offsetMinutes) * 60 +
    (if time.second = 60 then 59 else time.second)

/-- The instant, when the date exists, falls on the day of the week written, and every field is in
its range. Offsets stay below a day. -/
def instant? (time : WrittenTime) : Option Timestamp :=
  if time.date.isValid && time.hour < 24 && time.minute < 60 && time.second ≤ 60 &&
      time.offsetMinutes.natAbs < 1440 &&
      time.weekday.all (· == Date.weekday time.date.toDays) then
    if nanos_lt : time.nanos < 1000000000 then
      let instant : Timestamp :=
        { seconds := time.seconds
          nanos := if time.second = 60 then time.nanos + 1000000000 else time.nanos
          nanos_lt := by split <;> omega
          minute_end := by unfold seconds; split <;> omega }
      if Date.yearInRange instant.date.year then some instant else none
    else none
  else none

end WrittenTime

end Curator
