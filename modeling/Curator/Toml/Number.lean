import Curator.Number.Binary64
import Curator.Text.Scan
import Curator.Toml.Value

/-! Numbers of TOML. An underscore may stand between any two digits. -/
namespace Curator.Toml.Number

/-- The digits at the front of a text, without the underscores between them. -/
def digitsOf (isDigit : Char → Bool) : List Char → List Char × List Char
  | '_' :: character :: rest =>
    if isDigit character then
      let (digits, rest) := digitsOf isDigit rest
      (character :: digits, rest)
    else ([], '_' :: character :: rest)
  | character :: rest =>
    if isDigit character then
      let (digits, rest) := digitsOf isDigit rest
      (character :: digits, rest)
    else ([], character :: rest)
  | [] => ([], [])

/-- Take digits, of which there must be some. No underscore comes first. -/
def digits (isDigit : Char → Bool) : Scan (List Char) := fun text =>
  if text.head?.any isDigit then some (digitsOf isDigit text) else none

/-- Take a sign, if there is one, and tell whether it is a minus sign. -/
def sign : Scan Bool := fun text =>
  match text with
  | '-' :: rest => some (true, rest)
  | '+' :: rest => some (false, rest)
  | text => some (false, text)

/-- Take the digits of a decimal number. Before others there is no zero. -/
def whole : Scan (List Char) := do
  match ← Scan.peek with
  | some '0' => Scan.exactly '0'; return ['0']
  | _ => digits Char.isDigit

/-- The integer of a magnitude and a sign, when it has 64 bits. -/
def integer? (isNegative : Bool) (magnitude : Nat) : Option Int :=
  let value : Int := if isNegative then -magnitude else magnitude
  if -9223372036854775808 ≤ value ∧ value < 9223372036854775808 then some value else none

/-- Take an integer that its prefix says to have another base. -/
def withBase (marker : String) (base : Nat) : Scan Value := do
  Scan.word marker
  let isDigit (character : Char) : Bool := (Text.hexValue? character).any (· < base)
  let digits ← digits isDigit
  let magnitude := digits.foldl (fun value digit =>
    value * base + (Text.hexValue? digit).getD 0) 0
  match integer? false magnitude with
  | some value => return .integer value
  | none => failure

/-- Take the fraction of a number behind its point. -/
def fraction : Scan (List Char) := do
  match ← Scan.peek with
  | some '.' => Scan.exactly '.'; digits Char.isDigit
  | _ => return []

def exponent : Scan (Option Int) := do
  match ← Scan.peek with
  | some 'e' | some 'E' =>
    let _ ← Scan.next
    let isNegative ← sign
    let magnitude := Text.digitsValue 0 (← digits Char.isDigit)
    return some (if isNegative then -magnitude else magnitude)
  | _ => return none

/-- Whether digits times a power of ten are beyond the greatest double. The count of digits alone
settles it, but for a few cases. -/
def isBeyondDoubles (digits : List Char) (power : Int) : Bool :=
  let significant := digits.dropWhile (· == '0')
  let order := significant.length + power
  if significant.isEmpty || order < 308 then false
  else if 310 < order then true
  else
    let value : Rat := Text.digitsValue 0 significant
    let scale : Rat := Nat.pow 10 power.natAbs
    Binary64.ofRational (if 0 ≤ power then value * scale else value / scale) == .infinite false

/-- Take a decimal number: an integer of 64 bits, or a floating number that is not too great. -/
def decimal : Scan Value := do
  let isNegative ← sign
  let whole ← whole
  let fraction ← fraction
  let exponent ← exponent
  if fraction.isEmpty && exponent.isNone then
    match integer? isNegative (Text.digitsValue 0 whole) with
    | some value => return .integer value
    | none => failure
  else if !isNegative &&
      isBeyondDoubles (whole ++ fraction) (exponent.getD 0 - fraction.length) then failure
  else return .float

/-- Take a floating number that is written as a word. -/
def special : Scan Value := do
  let _ ← sign
  Scan.word "inf" <|> Scan.word "nan"
  return .float

def number : Scan Value :=
  withBase "0x" 16 <|> withBase "0o" 8 <|> withBase "0b" 2 <|> special <|> decimal

end Curator.Toml.Number
