import Curator.Text.Composition
import Curator.Text.Lowercase
import Curator.Web.DomainImage

/-! How the characters of domain names are read: which of them are written another way in a name,
which are left out, and which no name holds. -/
namespace Curator.DomainCharacter

/-- The characters that are left out of a name. -/
def ignoredRanges : Text.CodePointRanges :=
  [(0xAD, 0xAD), (0x34F, 0x34F), (0x115F, 0x1160), (0x17B4, 0x17B5), (0x180B, 0x180F),
   (0x200B, 0x200B), (0x2060, 0x2064), (0x206A, 0x206F), (0x3164, 0x3164), (0xFE00, 0xFE0F),
   (0xFEFF, 0xFEFF), (0xFFA0, 0xFFA0), (0x1BCA0, 0x1BCA3), (0x1D173, 0x1D17A), (0xE0100, 0xE01EF)]

/-- The characters outside of ASCII that no name holds. -/
def refusedRanges : Text.CodePointRanges :=
  [(0x80, 0x9F), (0x600, 0x605), (0x61C, 0x61C), (0x6DD, 0x6DD), (0x70F, 0x70F), (0x890, 0x891),
   (0x8E2, 0x8E2), (0x1680, 0x1680), (0x200E, 0x200F), (0x2024, 0x2026), (0x2028, 0x202E),
   (0x2066, 0x2069), (0x2488, 0x249B), (0x2FF0, 0x2FFF), (0x31EF, 0x31EF), (0x33C2, 0x33C2),
   (0x33C7, 0x33C7), (0x33D8, 0x33D8), (0xE000, 0xF8FF), (0xFDD0, 0xFDEF), (0xFE12, 0xFE12),
   (0xFE19, 0xFE19), (0xFE30, 0xFE30), (0xFE52, 0xFE52), (0xFFF9, 0xFFFF), (0x110BD, 0x110BD),
   (0x110CD, 0x110CD), (0x13430, 0x1343F), (0x1F100, 0x1F100), (0x1FFFE, 0x1FFFF),
   (0x2FFFE, 0x2FFFF), (0x3FFFE, 0x3FFFF), (0x4FFFE, 0x4FFFF), (0x5FFFE, 0x5FFFF),
   (0x6FFFE, 0x6FFFF), (0x7FFFE, 0x7FFFF), (0x8FFFE, 0x8FFFF), (0x9FFFE, 0x9FFFF),
   (0xAFFFE, 0xAFFFF), (0xBFFFE, 0xBFFFF), (0xCFFFE, 0xCFFFF), (0xDFFFE, 0xDFFFF),
   (0xE0001, 0xE0001), (0xE0020, 0xE007F), (0xEFFFE, 0x10FFFF)]

/-- The marks of ASCII that no name holds. -/
def refusedMarks : List Char :=
  [' ', '#', '%', '/', ':', '<', '>', '?', '@', '[', '\\', ']', '^', '|', '\x7f']

/-- Whether no name holds a character of ASCII. Names hold no control characters. -/
def isRefusedMark (character : Char) : Bool :=
  character.toNat < 32 || refusedMarks.contains character

inductive Role where
  | kept
  | image (text : List Char)
  | ignored
  | refused
deriving DecidableEq, Repr

/-- What a character outside of ASCII stands for, unless it is a capital letter. -/
def image? (character : Char) : Option (List Char) :=
  (singleImages.findSome? fun (start, images) =>
    (Text.memberAt? character.toNat start images.toList).map fun image => [image]) <|>
  longImages.findSome? fun (start, images) =>
    (Text.memberAt? character.toNat start images).map String.toList

/-- Whether a letter is of the one script whose names are written in capitals. -/
def isCherokeeCapital (character : Char) : Bool :=
  0x13A0 ≤ character.toNat && character.toNat ≤ 0x13F5

/-- A capital letter stands for the small one. -/
def letterRole (character : Char) : Role :=
  let small := Text.lowercaseAlone character
  if small = [character] ∨ isCherokeeCapital character then .kept else .image small

/-- The role of a character. Those that are not assigned yet may turn out to be letters. -/
def role (character : Char) : Role :=
  if character.toNat < 128 then letterRole character
  else if ignoredRanges.holds character then .ignored
  else if refusedRanges.holds character then .refused
  else
    match image? character with
    | some text => .image text
    | none => letterRole character

end Curator.DomainCharacter
