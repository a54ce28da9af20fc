import Curator.Text.Scan

/-! The parts of written dates: names of days and months, offsets and fractions of a second. -/
namespace Curator.Scan

def blanks : Scan Unit :=
  modify Text.trimStart

/-- Skip white space, of which there must be some. -/
def someBlanks : Scan Unit := fun text =>
  match text with
  | character :: rest =>
    if Text.isWhiteSpace character then some ((), Text.trimStart rest) else none
  | [] => none

/-- Take a name of three letters in any case; its position in the list is the result. -/
def shortName (names : List String) : Scan Nat := fun text =>
  match names.findIdx? fun name => name.toList == Text.asciiLowercase (text.take 3) with
  | some index => some (index, text.drop 3)
  | none => none

/-- Take a day of the week, Monday being 0. -/
def weekday : Scan Nat :=
  shortName ["mon", "tue", "wed", "thu", "fri", "sat", "sun"]

/-- Take a month, January being 1. -/
def month : Scan Nat :=
  return (← shortName
    ["jan", "feb", "mar", "apr", "may", "jun", "jul", "aug", "sep", "oct", "nov", "dec"]) + 1

/-- Take hours and minutes of an offset from universal time, with `between` taking what separates
them; the result is in minutes. A true minus sign counts only where it is allowed. -/
def offset (between : Scan Unit) (allowMinusSign : Bool) : Scan Int := do
  let text ← get
  let (sign, rest) ← match text with
    | '+' :: rest => pure (1, rest)
    | '-' :: rest => pure (-1, rest)
    | character :: rest =>
      if allowMinusSign && character.toNat == 0x2212 then pure (-1, rest) else failure
    | [] => failure
  set rest
  let hours ← number 2 2
  between
  let minutes ← number 2 2
  if minutes < 60 then return sign * ((hours * 60 + minutes : Nat) : Int) else failure

/-- Take the digits of a fraction of a second; nine count, the rest is skipped. -/
def fraction : Scan Nat := do
  let taken ← digits
  if taken.isEmpty then failure
  let counted := taken.take 9
  return value counted * Nat.pow 10 (9 - counted.length)

/-- Take a fraction with its point, where there is one. -/
def optionalFraction : Scan Nat := do
  match ← peek with
  | some '.' => exactly '.'; fraction
  | _ => return 0

end Curator.Scan
