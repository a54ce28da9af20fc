import Curator.Text.CanonicalSpelling
import Curator.Text.CombiningClass

/-! Composed texts. Of the many ways to write letters with marks one is chosen: the marks of a
letter stand in the order of their classes, and the letter takes up every mark with which it is one
character. -/
namespace Curator.Text

def memberAt? {Member : Type} (codePoint start : Nat) (members : List Member) : Option Member :=
  if start ≤ codePoint then members[codePoint - start]? else none

/-- The characters in place of one that is only ever written in another way. -/
def respelling? (character : Char) : Option (List Char) :=
  (respelledRuns.findSome? fun (start, spellings) =>
    (memberAt? character.toNat start spellings.toList).map fun spelling => [spelling]) <|>
  respelledLong.findSome? fun (start, spellings) =>
    (memberAt? character.toNat start spellings).map String.toList

/-- The partner of a character in two texts of one length. -/
def partner? (character : Char) : List Char → List Char → Option Char
  | own :: owns, other :: others =>
    if own = character then some other else partner? character owns others
  | _, _ => none

/-- A syllable as what it consists of: the same without its last sound, and that sound. A syllable
of two sounds consists of these. -/
def syllableParts? (character : Char) : Option (Char × Char) :=
  let index := character.toNat - 0xAC00
  if character.toNat < 0xAC00 || 0xD7A3 < character.toNat then none
  else if index % 28 = 0 then
    some (Char.ofNat (0x1100 + index / 588), Char.ofNat (0x1161 + index % 588 / 28))
  else some (Char.ofNat (character.toNat - index % 28), Char.ofNat (0x11A7 + index % 28))

/-- The syllable of a sound, or of a shorter syllable, and the sound behind it. -/
def syllable? (front last : Char) : Option Char :=
  let initial := front.toNat - 0x1100
  let vowel := last.toNat - 0x1161
  let index := front.toNat - 0xAC00
  if 0x1100 ≤ front.toNat && initial < 19 && 0x1161 ≤ last.toNat && vowel < 21 then
    some (Char.ofNat (0xAC00 + (initial * 21 + vowel) * 28))
  else if 0xAC00 ≤ front.toNat && index < 11172 && index % 28 == 0 &&
      0x11A7 < last.toNat && last.toNat ≤ 0x11C2 then
    some (Char.ofNat (front.toNat + (last.toNat - 0x11A7)))
  else none

/-- A character as a letter and the mark that stands last on it. -/
def parts? (character : Char) : Option (Char × Char) :=
  syllableParts? character <|>
  markedLetters.findSome? fun (mark, letters, markedOnes) =>
    (partner? character markedOnes.toList letters.toList).map fun letter => (letter, mark)

/-- The character that a letter makes with a mark. -/
def joined? (letter mark : Char) : Option Char :=
  syllable? letter mark <|>
  markedLetters.findSome? fun (each, letters, markedOnes) =>
    if each = mark then partner? letter letters.toList markedOnes.toList else none

/-- Take a number of marks off a letter. -/
def takeApart : Nat → Char → List Char
  | 0, character => [character]
  | count + 1, character =>
    match parts? character with
    | some (letter, mark) => takeApart count letter ++ [mark]
    | none => [character]

def mostMarks : Nat := 3

/-- A character as a letter and all the marks on it. -/
def spellOut (character : Char) : List Char :=
  if character.toNat < 0xC0 then [character]
  else ((respelling? character).getD [character]).flatMap (takeApart mostMarks)

abbrev ClassedCharacter := Nat × Char

/-- Put a character in front of a text, or behind marks of lower classes if it is a mark. -/
def insertByClass (character : ClassedCharacter) : List ClassedCharacter → List ClassedCharacter
  | [] => [character]
  | next :: rest =>
    if 0 < next.1 ∧ next.1 < character.1 then next :: insertByClass character rest
    else character :: next :: rest

/-- A text in which each mark stands by itself, in the order of their classes. -/
def decompose (text : List Char) : List ClassedCharacter :=
  ((text.flatMap spellOut).map fun character => (combiningClass character, character)).foldr
    insertByClass []

/-- Let a letter take up the marks behind it. The marks that it has not taken up are given in
reverse. A mark of the same class among them stands in the way. -/
def composeBehind (letter : Char) (left : List ClassedCharacter) :
    List ClassedCharacter → List Char
  | [] => letter :: (left.reverse.map Prod.snd)
  | next :: rest =>
    let isBlocked := left.head?.any fun last => next.1 ≤ last.1
    match if isBlocked then none else joined? letter next.2 with
    | some joined => composeBehind joined left rest
    | none =>
      if next.1 = 0 then letter :: (left.reverse.map Prod.snd) ++ composeBehind next.2 [] rest
      else composeBehind letter (next :: left) rest

/-- The composed form of a text. -/
def compose (text : List Char) : List Char :=
  if text.all (·.toNat < 0xC0) then text
  else
    match decompose text with
    | [] => []
    | first :: rest => composeBehind first.2 [] rest

end Curator.Text
