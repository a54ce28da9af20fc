import Curator.Text.Basic
import Curator.Text.Integer

/-! Reading a text from left to right. A scan takes characters from the front of a text or fails;
`Scan.whole` wants nothing to be left. -/
namespace Curator

/-- A reader that takes characters from the front of a text. -/
abbrev Scan := StateT (List Char) Option

namespace Scan

def whole {α : Type} (scan : Scan α) (text : List Char) : Option α :=
  match scan.run text with
  | some (value, []) => some value
  | _ => none

def next : Scan Char := fun text =>
  match text with
  | character :: rest => some (character, rest)
  | [] => none

def exactly (expected : Char) : Scan Unit := fun text =>
  match text with
  | character :: rest => if character = expected then some ((), rest) else none
  | [] => none

def eitherOf (first second : Char) : Scan Unit := fun text =>
  match text with
  | character :: rest => if character = first ∨ character = second then some ((), rest) else none
  | [] => none

/-- The value of decimal digits. -/
def value (digits : List Char) : Nat :=
  Text.digitsValue 0 digits

def digits : Scan (List Char) := fun text =>
  some (text.takeWhile Char.isDigit, text.dropWhile Char.isDigit)

def number (least most : Nat) : Scan Nat := fun text =>
  let taken := (text.take most).takeWhile Char.isDigit
  if taken.length < least then none else some (value taken, text.drop taken.length)

/-- Take what `scan` takes, or nothing where it fails. -/
def optionally {α : Type} (scan : Scan α) : Scan (Option α) := fun text =>
  match scan.run text with
  | some (value, rest) => some (some value, rest)
  | none => some (none, text)

def peek : Scan (Option Char) :=
  return (← get).head?

def word (expected : String) : Scan Unit := fun text =>
  (Text.after? expected.toList text).map fun rest => ((), rest)

/-- Take the longest run of characters of a kind. -/
def run (isMember : Char → Bool) : Scan (List Char) := fun text =>
  some (text.takeWhile isMember, text.dropWhile isMember)

/-- Take pieces up to one that says it is the last: no more of them than `most` has characters. -/
def seriesWithin {α : Type} (piece : Scan (α × Bool)) : (most : List Char) → Scan (List α)
  | [], _ => none
  | _ :: most, text =>
    match piece text with
    | some ((member, true), rest) => some ([member], rest)
    | some ((member, false), rest) =>
      (seriesWithin piece most rest).map fun (members, rest) => (member :: members, rest)
    | none => none

/-- Take pieces up to one that says it is the last. A piece takes at least one character, so no text
has more pieces than characters. -/
def series {α : Type} (piece : Scan (α × Bool)) : Scan (List α) := fun text =>
  seriesWithin piece text text

end Scan

end Curator
