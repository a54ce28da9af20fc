import Curator.Encoding.DoubleByte

/-! Japanese encodings with characters of up to three bytes, and one in which escapes tell what the
bytes behind them mean. -/
namespace Curator.Japanese

open DoubleByte

/-- Whether a byte is part of a character of several bytes. -/
def isPart (octet : Char) : Bool :=
  isWithin 0xA1 0xFE octet.toNat

def pair? (grid : CharacterGrid) (first second : Char) : Option Char :=
  if isPart first && isPart second then
    grid.character? (first.toNat - 0xA0) (second.toNat - 0xA1)
  else none

/-- The text that octets with extended bytes stand for. The bytes 0x8E and 0x8F announce katakana of
half width and further characters. -/
def decodeExtended? : Octets → Option (List Char)
  | [] => some []
  | '\x8e' :: second :: rest => do
    return (← halfWidth? second.toNat) :: (← decodeExtended? rest)
  | '\x8f' :: second :: third :: rest => do
    return (← pair? Kanji.further second third) :: (← decodeExtended? rest)
  | first :: rest =>
    match ascii? first.toNat, rest with
    | some character, rest => (decodeExtended? rest).map (character :: ·)
    | none, second :: rest => do
      return (← pair? Kanji.common first second) :: (← decodeExtended? rest)
    | none, [] => none

/-- What the bytes behind an escape mean. -/
inductive Mode where
  | ascii
  /-- Letters with the signs for yen and for an overline. -/
  | roman
  | katakana
  /-- Two bytes stand for a character. -/
  | kanji
deriving DecidableEq, Repr

/-- The mode that an escape begins, from what follows its first byte. -/
def Mode.ofEscape? : Char → Char → Option Mode
  | '(', 'B' => some .ascii
  | '(', 'J' => some .roman
  | '(', 'I' => some .katakana
  | '$', '@' | '$', 'B' => some .kanji
  | _, _ => none

/-- The characters of ASCII but the two that shift between sets of characters elsewhere. -/
def unshifted? (octet : Char) : Option Char :=
  if octet = '\x0e' ∨ octet = '\x0f' then none else ascii? octet.toNat

/-- The character of a byte that stands alone in a mode. -/
def Mode.alone? (mode : Mode) (octet : Char) : Option Char :=
  match mode with
  | .ascii => unshifted? octet
  | .roman =>
    if octet = '\\' then some '¥' else if octet = '~' then some '‾' else unshifted? octet
  | .katakana =>
    if isWithin 0x21 0x5F octet.toNat then halfWidth? (octet.toNat + 0x80) else none
  | .kanji => none

/-- The text that octets with escapes stand for, from a mode on. An escape right behind another
one is an error. -/
def decodeEscaped? (mode : Mode) (isBegun : Bool) : Octets → Option (List Char)
  | [] => some []
  | '\x1b' :: second :: third :: rest =>
    if isBegun then none
    else (Mode.ofEscape? second third).bind fun mode => decodeEscaped? mode true rest
  | first :: rest =>
    if mode = .kanji then
      match rest with
      | [] => none
      | second :: rest =>
        if isWithin 0x21 0x7E first.toNat && isWithin 0x21 0x7E second.toNat then do
          let character ← Kanji.common.character? (first.toNat - 0x20) (second.toNat - 0x21)
          return character :: (← decodeEscaped? mode false rest)
        else none
    else if first = '\x1b' then none
    else do return (← mode.alone? first) :: (← decodeEscaped? mode false rest)

end Curator.Japanese
