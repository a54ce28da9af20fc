/-! Characters in rows and columns, as encodings with several bytes for a character name them. -/
namespace Curator

/-- Numbered rows of characters. A row is given in pieces; a blank stands where it has no character,
and it may end early. -/
abbrev CharacterGrid := List (Nat × List String)

/-- The character in a row and a column, which is counted from 0. -/
def CharacterGrid.character? (grid : CharacterGrid) (row column : Nat) : Option Char := do
  let pieces ← grid.lookup row
  let character ← (pieces.flatMap String.toList)[column]?
  if character = ' ' then none else some character

end Curator
