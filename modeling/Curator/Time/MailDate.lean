import Curator.Time.Scan
import Curator.Time.Timestamp

/-! Dates as mail writes them: `Mon, 24 Feb 2014 05:57:39 +0100 (comment)`. The day of the week and
the seconds may be left out, years may have two or three digits, and the zone may have a name. -/
namespace Curator.MailDate

open Scan

/-- The day of the week with its comma. A name without a comma is refused. -/
def leadingWeekday : Scan (Option Nat) := do
  match ← optionally weekday with
  | some day => exactly ','; return some day
  | none => return none

/-- A year. Two digits stand for 1950 to 2049, three digits count from 1900. -/
def year : Scan Int := do
  let taken ← digits
  let written := value taken
  if taken.length < 2 then failure
  else if taken.length = 2 then return if written < 50 then written + 2000 else written + 1900
  else if taken.length = 3 then return written + 1900
  else return written

def zoneHours? (name : List Char) : Option Int :=
  match String.ofList (Text.asciiLowercase name) with
  | "gmt" | "ut" | "z" => some 0
  | "edt" => some (-4)
  | "est" | "cdt" => some (-5)
  | "cst" | "mdt" => some (-6)
  | "mst" | "pdt" => some (-7)
  | "pst" => some (-8)
  | "j" => none
  | _ => if name.length = 1 then some 0 else none

/-- The zone, in minutes ahead of universal time. -/
def zone : Scan Int := do
  let text ← get
  let name := text.takeWhile Char.isAlpha
  if name.isEmpty then offset (pure ()) false
  else
    match zoneHours? name with
    | some hours =>
      set (text.dropWhile Char.isAlpha)
      return hours * 60
    | none => failure

/-- What follows the parenthesis that ends a comment, `depth` inner ones being open and the
character after a backslash having no meaning. -/
def afterComment? (depth : Nat) : List Char → Option (List Char)
  | [] => none
  | '\\' :: [] => none
  | '\\' :: _ :: rest => afterComment? depth rest
  | '(' :: rest => afterComment? (depth + 1) rest
  | ')' :: rest =>
    match depth with
    | 0 => some rest
    | depth + 1 => afterComment? depth rest
  | _ :: rest => afterComment? depth rest

theorem afterComment?_shorter {depth : Nat} {text rest : List Char}
    (found : afterComment? depth text = some rest) : rest.length < text.length := by
  fun_induction afterComment? depth text <;> simp_all <;> omega

/-- Whether only comments are left. -/
def onlyComments (text : List Char) : Bool :=
  text.isEmpty ||
    match _blank : Text.trimStart text with
    | '(' :: inside =>
      match _found : afterComment? 0 inside with
      | some rest => onlyComments rest
      | none => false
    | _ => false
termination_by text.length
decreasing_by
  have shorter := afterComment?_shorter _found
  have trimmed := (List.dropWhile_sublist Text.isWhiteSpace (l := text)).length_le
  rw [← Text.trimStart, _blank, List.length_cons] at trimmed
  omega

/-- A date with its time and zone. -/
def written : Scan WrittenTime := do
  blanks
  let weekday ← leadingWeekday
  blanks
  let day ← number 1 2
  someBlanks
  let month ← month
  someBlanks
  let year ← year
  someBlanks
  let hour ← number 2 2
  blanks
  exactly ':'
  blanks
  let minute ← number 2 2
  let second ← optionally do
    blanks
    exactly ':'
  let second ← if second.isSome then number 2 2 else pure 0
  someBlanks
  let offsetMinutes ← zone
  if onlyComments (← get) then
    set ([] : List Char)
    return { date := { year, month, day }, hour, minute, second, offsetMinutes, weekday }
  else failure

def read? (text : List Char) : Option Timestamp :=
  (written.whole text).bind WrittenTime.instant?

end Curator.MailDate
