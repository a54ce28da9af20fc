/-! Double precision numbers, exactly. A finite number is held as the rational it stands for, and
every operation is the exact one followed by rounding to the nearest double, ties to the even
significand. -/
namespace Curator

/-- A double precision number. Zero has a sign, so `finite 0` is positive zero only. -/
inductive Binary64 where
  | nan
  | infinite (negative : Bool)
  | negativeZero
  | finite (value : Rat)
deriving DecidableEq, Repr

namespace Binary64

def twoTo (power : Int) : Rat :=
  if 0 ≤ power then (Nat.pow 2 power.toNat : Rat) else 1 / (Nat.pow 2 (-power).toNat : Rat)

def magnitude (value : Rat) : Rat :=
  if value < 0 then -value else value

/-- The power of two at or below the magnitude of a rational other than zero. -/
def binaryOrder (value : Rat) : Int :=
  let estimate : Int := value.num.natAbs.log2 - value.den.log2
  if twoTo estimate ≤ magnitude value then estimate else estimate - 1

/-- The nearest integer; of two equally near ones the even one. -/
def nearestEven (value : Rat) : Int :=
  let whole := value.floor
  let rest := value - whole
  if rest < 1 / 2 then whole
  else if 1 / 2 < rest then whole + 1
  else if whole % 2 = 0 then whole
  else whole + 1

/-- The distance between neighbouring doubles around a rational: 53 significant bits, and no finer
than the smallest double. -/
def spacing (value : Rat) : Rat :=
  twoTo (max (binaryOrder value - 52) (-1074))

/-- The rational on the grid of doubles that is nearest, were there no greatest double. -/
def nearest (value : Rat) : Rat :=
  if value = 0 then 0 else nearestEven (value / spacing value) * spacing value

/-- The double nearest to a rational. What rounds to two to the 1024 or more is infinite, and a
negative rational that rounds to zero keeps its sign. -/
def ofRational (value : Rat) : Binary64 :=
  let rounded := nearest value
  if rounded = 0 then (if value < 0 then negativeZero else finite 0)
  else if twoTo 1024 ≤ magnitude rounded then infinite (rounded < 0)
  else finite rounded

def ofInteger (value : Int) : Binary64 :=
  ofRational value

def isNegative : Binary64 → Bool
  | nan => false
  | infinite negative => negative
  | negativeZero => true
  | finite value => value < 0

/-- The rational a finite number stands for. -/
def toRational? : Binary64 → Option Rat
  | nan | infinite _ => none
  | negativeZero => some 0
  | finite value => some value

def signedZero (negative : Bool) : Binary64 :=
  if negative then negativeZero else finite 0

def negate : Binary64 → Binary64
  | nan => nan
  | infinite negative => infinite !negative
  | negativeZero => finite 0
  | finite value => if value = 0 then negativeZero else finite (-value)

/-- Sum. Only two negative zeros add up to negative zero. -/
def add : Binary64 → Binary64 → Binary64
  | nan, _ | _, nan => nan
  | infinite left, infinite right => if left = right then infinite left else nan
  | infinite negative, _ | _, infinite negative => infinite negative
  | negativeZero, negativeZero => negativeZero
  | negativeZero, finite value | finite value, negativeZero => ofRational value
  | finite left, finite right => ofRational (left + right)

def subtract (left right : Binary64) : Binary64 :=
  add left right.negate

def multiply (left right : Binary64) : Binary64 :=
  let negative := left.isNegative != right.isNegative
  match left, right with
  | nan, _ | _, nan => nan
  | infinite _, other | other, infinite _ =>
    if other.toRational? = some 0 then nan else infinite negative
  | left, right =>
    match left.toRational?, right.toRational? with
    | some x, some y => if x * y = 0 then signedZero negative else ofRational (x * y)
    | _, _ => nan

/-- Quotient. A number other than zero divided by zero is infinite. -/
def divide (left right : Binary64) : Binary64 :=
  let negative := left.isNegative != right.isNegative
  match left, right with
  | nan, _ | _, nan | infinite _, infinite _ => nan
  | infinite _, _ => infinite negative
  | _, infinite _ => signedZero negative
  | left, right =>
    match left.toRational?, right.toRational? with
    | some x, some y =>
      if y = 0 then (if x = 0 then nan else infinite negative)
      else if x = 0 then signedZero negative
      else ofRational (x / y)
    | _, _ => nan

def absolute : Binary64 → Binary64
  | nan => nan
  | infinite _ => infinite false
  | negativeZero => finite 0
  | finite value => finite (magnitude value)

/-- Whether the left number is less, as a number. Nothing is less or greater than `nan`. -/
def lessThan : Binary64 → Binary64 → Bool
  | nan, _ | _, nan => false
  | infinite left, infinite right => left && !right
  | infinite negative, _ => negative
  | _, infinite negative => !negative
  | left, right => left.toRational?.getD 0 < right.toRational?.getD 0

/-- Whether the left number is at most the right one, as a number. -/
def atMost : Binary64 → Binary64 → Bool
  | nan, _ | _, nan => false
  | left, right => !lessThan right left

def compareRationals (left right : Rat) : Ordering :=
  if left < right then .lt else if right < left then .gt else .eq

/-- A total order: negative zero stands just below positive zero, and `nan` above all. -/
def totalCompare : Binary64 → Binary64 → Ordering
  | nan, nan => .eq
  | nan, _ => .gt
  | _, nan => .lt
  | infinite left, infinite right => compare right left
  | infinite negative, _ => if negative then .lt else .gt
  | _, infinite negative => if negative then .gt else .lt
  | negativeZero, negativeZero => .eq
  | negativeZero, finite value => if value < 0 then .gt else .lt
  | finite value, negativeZero => if value < 0 then .lt else .gt
  | finite left, finite right => compareRationals left right

/-- The number moved into the range from `low` to `high`; `nan` stays. -/
def clamp (number low high : Binary64) : Binary64 :=
  let raised := if lessThan number low then low else number
  if lessThan high raised then high else raised

/-- The nearest integer, a half going away from zero. -/
def roundHalfAway (value : Rat) : Int :=
  let rounded : Int := (magnitude value + 1 / 2).floor
  if value < 0 then -rounded else rounded

/-- The number rounded to an integer, a half going away from zero, and moved into the range from 0
to `limit`; `nan` becomes 0. -/
def roundSaturating (limit : Nat) : Binary64 → Nat
  | nan => 0
  | infinite negative => if negative then 0 else limit
  | negativeZero => 0
  | finite value => min limit (roundHalfAway value).toNat

/-- The place of the sign in a word: two to the 63. -/
def signPlace : Nat := 0x8000000000000000

/-- The place of the exponent in a word: two to the 52. -/
def exponentPlace : Nat := 0x10000000000000

def ofBits (bits : UInt64) : Binary64 :=
  let word := bits.toNat
  let negative : Bool := word / signPlace = 1
  let exponent : Nat := word / exponentPlace % 2048
  let fraction : Nat := word % exponentPlace
  let signed (value : Rat) : Binary64 := finite (if negative then -value else value)
  if exponent = 2047 then (if fraction = 0 then infinite negative else nan)
  else if exponent = 0 then
    if fraction = 0 then signedZero negative else signed (fraction * twoTo (-1074))
  else signed ((exponentPlace + fraction : Nat) * twoTo ((exponent : Int) - 1075))

/-- The word that encodes a number, other than `nan` as sign, biased exponent and fraction. -/
def toBits : Binary64 → UInt64
  | nan => 0x7FF8000000000000
  | infinite negative => if negative then 0xFFF0000000000000 else 0x7FF0000000000000
  | negativeZero => 0x8000000000000000
  | finite value =>
    if value = 0 then 0
    else
      let grid : Int := max (binaryOrder value - 52) (-1074)
      let significand : Nat := (magnitude value / twoTo grid).floor.toNat
      let sign : Nat := if value < 0 then signPlace else 0
      UInt64.ofNat (sign + (grid + 1074).toNat * exponentPlace + significand)

end Binary64

end Curator
