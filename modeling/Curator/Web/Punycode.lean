import Curator.Text.Basic
import Curator.Text.Integer

/-! Labels of domain names with characters outside of ASCII, written in ASCII. Behind the last
hyphen stand numbers with digits of varying weight; each of them says which character comes next and
where. -/
namespace Curator.Punycode

/-- The value of a small letter or digit as a digit. -/
def digit? (character : Char) : Option Nat :=
  if 'a' ≤ character && character ≤ 'z' then some (character.toNat - 'a'.toNat)
  else (Text.digitValue? character).map (26 + ·)

/-- The least digit that does not end a number, by its place in the number. -/
def threshold (bias place : Nat) : Nat :=
  if place ≤ bias then 1 else if bias + 26 ≤ place then 26 else place - bias

/-- Divide a difference until it is small, and count the places that this takes. -/
def shrink (difference place : Nat) : Nat × Nat :=
  if 455 < difference then shrink (difference / 35) (place + 36) else (difference, place)
termination_by difference
decreasing_by exact Nat.div_lt_self (by omega) (by omega)

/-- The bias after a difference has led to a text of a given length. -/
def adapt (difference length : Nat) (isFirst : Bool) : Nat :=
  let scaled := if isFirst then difference / 700 else difference / 2
  let (rest, place) := shrink (scaled + scaled / length) 0
  place + 36 * rest / (rest + 38)

structure Progress where
  text : List Char
  /-- The code point that is inserted next, unless a number passes over it. -/
  codePoint : Nat := 128
  position : Nat := 0
  bias : Nat := 72
  isFirst : Bool := true
  difference : Nat := 0
  weight : Nat := 1
  /-- The place of the next digit, one only between numbers. -/
  place : Nat := 36

def character? (codePoint : Nat) : Option Char :=
  if codePoint.isValidChar then some (Char.ofNat codePoint) else none

/-- Insert a character as a complete number says. -/
def Progress.insert? (progress : Progress) (difference : Nat) : Option Progress := do
  let length := progress.text.length + 1
  let reached := progress.position + difference
  let codePoint := progress.codePoint + reached / length
  let position := reached % length
  let inserted ← character? codePoint
  return {
    text := progress.text.take position ++ inserted :: progress.text.drop position
    codePoint, position := position + 1
    bias := adapt difference length progress.isFirst
    isFirst := false }

/-- No number of a code reaches this bound. -/
def bound : Nat := 4294967296

/-- Read one digit. -/
def Progress.read? (progress : Progress) (character : Char) : Option Progress := do
  let digit ← digit? character
  let difference := progress.difference + digit * progress.weight
  let least := threshold progress.bias progress.place
  if bound ≤ progress.position + difference then none
  else if digit < least then progress.insert? difference
  else if bound ≤ progress.weight * (36 - least) then none
  else return { progress with
    difference, weight := progress.weight * (36 - least), place := progress.place + 36 }

/-- The characters that stand for themselves, and the digits. -/
def split (code : List Char) : List Char × List Char :=
  match Text.splitLast? '-' code with
  | some (front, digits) => if front.isEmpty then ([], code) else (front, digits)
  | none => ([], code)

def decode? (code : List Char) : Option (List Char) := do
  let (front, digits) := split code
  let progress ← digits.foldlM Progress.read? { text := front }
  if progress.place = 36 then return progress.text else none

end Curator.Punycode
