import Curator.Number.Binary64
import Curator.Text.Basic
import Curator.Text.Integer

/-! Decimal numerals: the rational that one stands for, and numbers written with fixed places. -/
namespace Curator.Decimal

/-- The rational that digits with an optional decimal point stand for. -/
def read? (numeral : List Char) : Option Rat :=
  let (whole, places) := (Text.splitFirst? '.' numeral).getD (numeral, [])
  if !whole.isEmpty && (whole ++ places).all Char.isDigit then
    some ((Text.digitsValue 0 (whole ++ places) : Nat) / (Nat.pow 10 places.length : Nat))
  else none

/-- A rational from zero on, written with `places` digits after the point; the last one is rounded,
a half going to the even digit. -/
def renderFixed (places : Nat) (value : Rat) : String :=
  let scaled := (Binary64.nearestEven (value * (Nat.pow 10 places : Nat))).toNat
  let digits := Nat.toDigits 10 scaled
  let filled := List.replicate (places + 1 - digits.length) '0' ++ digits
  let whole := filled.take (filled.length - places)
  String.ofList (whole ++ '.' :: filled.drop (filled.length - places))

end Curator.Decimal
