import Curator.Number.Decimal
import Curator.Text.DecimalDigit
import Curator.Text.WordCharacter

/-! Sizes mentioned in running text, such as `1.37 GB`. The first place counts where a numeral, at
most one character that belongs to no word, and a unit follow each other. -/
namespace Curator.ReportedSize

/-- A unit of size. The spellings with and without an `i` mean the same power of two. -/
inductive SizeUnit where
  | mebibyte
  | gibibyte
deriving DecidableEq, Repr

def SizeUnit.bytes : SizeUnit → Nat
  | .mebibyte => 1048576
  | .gibibyte => 1073741824

def spellings : List (String × SizeUnit) :=
  [("gb", .gibibyte), ("mb", .mebibyte), ("gib", .gibibyte), ("mib", .mebibyte)]

/-- The unit at the front of a text, in letters of any case. -/
def unit? (text : List Char) : Option SizeUnit :=
  (spellings.find? fun (spelling, _) =>
    Text.asciiLowercase (text.take spelling.length) = spelling.toList).map Prod.snd

/-- The unit at the front of a text, behind at most one character that belongs to no word. -/
def separatedUnit? (text : List Char) : Option SizeUnit :=
  match text with
  | [] => none
  | separator :: rest =>
    (if Text.isWordCharacter separator then none else unit? rest) <|> unit? text

/-- A numeral in a text, with the unit behind it. -/
structure Mention where
  numeral : List Char
  unit : SizeUnit
deriving DecidableEq, Repr

/-- A numeral whose digits end where `text` begins, with the unit there. -/
def mention? (numeral text : List Char) : Option Mention :=
  (separatedUnit? text).map (Mention.mk numeral)

/-- A mention with a fraction of two digits or, failing that, of one behind `whole` and its
point. -/
def withFraction? (whole text : List Char) : Option Mention :=
  match text with
  | first :: rest =>
    if Text.isDecimalDigit first then
      (match rest with
        | second :: rest =>
          if Text.isDecimalDigit second then mention? (whole ++ ['.', first, second]) rest else none
        | [] => none) <|>
      mention? (whole ++ ['.', first]) rest
    else none
  | [] => none

/-- The mention that begins at the front of a text. A numeral is a run of digits with a fraction,
two runs with a comma between them and a fraction, or a run alone. -/
def atFront? (text : List Char) : Option Mention :=
  let whole := text.takeWhile Text.isDecimalDigit
  if whole.isEmpty then none
  else
    let behind := text.dropWhile Text.isDecimalDigit
    let fractional :=
      match behind with
      | '.' :: rest => withFraction? whole rest
      | ',' :: rest =>
        let group := rest.takeWhile Text.isDecimalDigit
        match rest.dropWhile Text.isDecimalDigit with
        | '.' :: rest =>
          if group.isEmpty then none else withFraction? (whole ++ ',' :: group) rest
        | _ => none
      | _ => none
    fractional <|> mention? whole behind

def first? : List Char → Option Mention
  | [] => none
  | character :: rest => atFront? (character :: rest) <|> first? rest

def greatest : Nat := 18446744073709551615

/-- The bytes of a mention, to the nearest one. Numerals with digits other than those of ASCII have
no value. -/
def Mention.bytes (mention : Mention) : Nat :=
  match Decimal.read? (mention.numeral.filter (· != ',')) with
  | none => 0
  | some value =>
    ((Binary64.ofRational value).multiply (.ofInteger mention.unit.bytes)).roundSaturating greatest

def read (text : List Char) : UInt64 :=
  match first? text with
  | some mention => mention.bytes.toUInt64
  | none => 0

end Curator.ReportedSize
