import Curator.Encoding.BigFive
import Curator.Encoding.Hangul
import Curator.Encoding.Kanji
import Curator.Encoding.Octets

/-! Encodings in which a byte stands for a character alone or together with the one behind it. -/
namespace Curator

/-- An encoding with one or two bytes for a character. -/
structure DoubleByte where
  /-- The character of a byte that stands alone. -/
  alone? : Nat → Option Char
  pair? : Nat → Nat → Option (List Char)

namespace DoubleByte

def decode? (encoding : DoubleByte) : Octets → Option (List Char)
  | [] => some []
  | first :: rest =>
    match encoding.alone? first.toNat with
    | some character => (decode? encoding rest).map (character :: ·)
    | none =>
      match rest with
      | [] => none
      | second :: rest => do
        return (← encoding.pair? first.toNat second.toNat) ++ (← decode? encoding rest)

def isWithin (least greatest number : Nat) : Bool :=
  least ≤ number && number ≤ greatest

def ascii? (byte : Nat) : Option Char :=
  if byte < 0x80 then some (Char.ofNat byte) else none

def halfWidth? (byte : Nat) : Option Char :=
  if isWithin 0xA1 0xDF byte then some (Char.ofNat (0xFF61 + (byte - 0xA1))) else none

/-- Japanese with katakana of half width in one byte. The rows of two first bytes that users share
among themselves hold characters for private use. -/
def shiftedJapanese : DoubleByte where
  alone? byte := if byte = 0x80 then some '\x80' else ascii? byte <|> halfWidth? byte
  pair? first second :=
    if (isWithin 0x81 0x9F first || isWithin 0xE0 0xFC first) &&
        (isWithin 0x40 0x7E second || isWithin 0x80 0xFC second) then
      let place := (first - if first < 0xA0 then 0x81 else 0xC1) * 188 +
        (second - if second < 0x7F then 0x40 else 0x41)
      if isWithin 8836 10715 place then some [Char.ofNat (0xE000 + (place - 8836))]
      else (Kanji.common.character? (place / 94 + 1) (place % 94)).map ([·])
    else none

/-- The places of Big5 at which two characters stand. -/
def markedPlaces : List ((Nat × Nat) × List Char) :=
  [((0x88, 0x62), ['Ê', '\u0304']), ((0x88, 0x64), ['Ê', '\u030c']),
   ((0x88, 0xA3), ['ê', '\u0304']), ((0x88, 0xA5), ['ê', '\u030c'])]

/-- Chinese in the characters of Taiwan and Hong Kong. -/
def bigFive : DoubleByte where
  alone? := ascii?
  pair? first second :=
    if isWithin 0x40 0x7E second || isWithin 0xA1 0xFE second then
      markedPlaces.lookup (first, second) <|>
        (BigFive.grid.character? first (second - if second < 0x7F then 0x40 else 0x62)).map ([·])
    else none

def korean : DoubleByte where
  alone? := ascii?
  pair? first second :=
    if isWithin 0x41 0xFE second then (Hangul.grid.character? first (second - 0x41)).map ([·])
    else none

end DoubleByte

end Curator
