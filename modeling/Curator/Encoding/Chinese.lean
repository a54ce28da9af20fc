import Curator.Encoding.DoubleByte
import Curator.Encoding.Hanzi

/-! Chinese in GB 18030, which holds every character of Unicode in one, two or four bytes. -/
namespace Curator.Chinese

open DoubleByte

/-- The characters that users share among themselves. -/
def private? (first second : Nat) : Option Char :=
  if second < 0xA1 then
    if isWithin 0xA1 0xA7 first then
      let column := second - if second < 0x7F then 0x40 else 0x41
      some (Char.ofNat (0xE4C6 + (first - 0xA1) * 96 + column))
    else none
  else if isWithin 0xAA 0xAF first then
    some (Char.ofNat (0xE000 + (first - 0xAA) * 94 + (second - 0xA1)))
  else if isWithin 0xF8 0xFE first then
    some (Char.ofNat (0xE234 + (first - 0xF8) * 94 + (second - 0xA1)))
  else none

def pair? (first second : Nat) : Option Char :=
  if isWithin 0x40 0x7E second || isWithin 0x80 0xFE second then
    Hanzi.grid.character? first (second - if second < 0x7F then 0x40 else 0x41) <|>
      private? first second
  else none

/-- The character with a place in the count of those of four bytes. -/
def counted? (place : Nat) : Option Char :=
  if place < 39420 then do
    let (start, number) ← Hanzi.runs.reverse.find? fun (start, _) => start ≤ place
    return Char.ofNat (number + (place - start))
  else if isWithin 189000 1237575 place then some (Char.ofNat (0x10000 + (place - 189000)))
  else none

def quadruple? (first second third fourth : Nat) : Option Char :=
  if isWithin 0x81 0xFE first && isWithin 0x30 0x39 second && isWithin 0x81 0xFE third &&
      isWithin 0x30 0x39 fourth then
    counted? (((first - 0x81) * 10 + (second - 0x30)) * 1260 + (third - 0x81) * 10 +
      (fourth - 0x30))
  else none

/-- The text that octets stand for. The byte 0x80 alone is the sign of the euro. -/
def decode? : Octets → Option (List Char)
  | [] => some []
  | first :: rest =>
    match ascii? first.toNat, rest with
    | some character, rest => (decode? rest).map (character :: ·)
    | none, rest =>
      if first = '\x80' then (decode? rest).map ('€' :: ·)
      else
        match rest with
        | second :: third :: fourth :: rest =>
          match quadruple? first.toNat second.toNat third.toNat fourth.toNat with
          | some character => (decode? rest).map (character :: ·)
          | none => do
            return (← pair? first.toNat second.toNat) :: (← decode? (third :: fourth :: rest))
        | second :: rest => do return (← pair? first.toNat second.toNat) :: (← decode? rest)
        | [] => none

end Curator.Chinese
