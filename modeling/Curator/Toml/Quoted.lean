import Curator.Text.Scan

/-! Texts of TOML: in double quotes, with escapes, or in single quotes as they are. Three quotes let
a text run over several lines. -/
namespace Curator.Toml.Quoted

/-- Whether a character may stand in a line. -/
def isPlain (character : Char) : Bool :=
  character == '\t' || 0x20 ≤ character.toNat && character.toNat != 0x7F

def isBlank (character : Char) : Bool :=
  character == ' ' || character == '\t'

/-- Take the character whose code point is written with `count` hexadecimal digits. -/
def codePoint (count : Nat) : Scan Char := fun text => do
  let digits ← (text.take count).mapM Text.hexValue?
  let value := digits.foldl (fun value digit => value * 16 + digit) 0
  if digits.length = count ∧ value.isValidChar then some (Char.ofNat value, text.drop count)
  else none

/-- Take the rest of an escape behind its backslash. -/
def escape : Scan Char := do
  match ← Scan.next with
  | 'b' => return '\x08'
  | 't' => return '\t'
  | 'n' => return '\n'
  | 'f' => return '\x0c'
  | 'r' => return '\r'
  | '"' => return '"'
  | '\\' => return '\\'
  | 'u' => codePoint 4
  | 'U' => codePoint 8
  | _ => failure

def newline : Scan Unit := do
  match ← Scan.next with
  | '\n' => return
  | '\r' => Scan.exactly '\n'
  | _ => failure

/-- What follows blanks and ends of lines. -/
def skipSpace : List Char → List Char
  | '\r' :: '\n' :: rest => skipSpace rest
  | character :: rest =>
    if isBlank character || character == '\n' then skipSpace rest else character :: rest
  | [] => []

/-- Take the end of a line that a backslash makes void, with all space behind it. -/
def voidLineEnd : Scan Unit := do
  let _ ← Scan.run isBlank
  newline
  modify skipSpace

/-- Take a piece of a text in double quotes, or its end. -/
def escapedPiece : Scan (List Char × Bool) := do
  match ← Scan.next with
  | '"' => return ([], true)
  | '\\' => return ([← escape], false)
  | character => if isPlain character then return ([character], false) else failure

/-- Take a piece of a text in single quotes, or its end. -/
def literalPiece : Scan (List Char × Bool) := do
  match ← Scan.next with
  | '\'' => return ([], true)
  | character => if isPlain character then return ([character], false) else failure

/-- Take further quotes behind one, and tell what five of them or fewer mean: one or two are text,
and the last three end it. -/
def quotes (mark : Char) : Scan (List Char × Bool) := fun text =>
  let count := 1 + ((text.take 4).takeWhile (· == mark)).length
  let isEnd := decide (3 ≤ count)
  some ((List.replicate (if isEnd then count - 3 else count) mark, isEnd), text.drop (count - 1))

/-- Take a piece of a text of several lines, or its end. -/
def linesPiece (mark : Char) (hasEscapes : Bool) : Scan (List Char × Bool) := do
  let character ← Scan.next
  if character = mark then quotes mark
  else if character = '\n' then return (['\n'], false)
  else if character = '\r' then
    Scan.exactly '\n'
    return (['\n'], false)
  else if character = '\\' ∧ hasEscapes then
    (do voidLineEnd; return ([], false)) <|> (do return ([← escape], false))
  else if isPlain character then return ([character], false)
  else failure

/-- Take the pieces of a text up to its end. -/
def pieces (piece : Scan (List Char × Bool)) : Scan (List Char) :=
  return (← Scan.series piece).flatten

def line : Scan (List Char) := do
  match ← Scan.next with
  | '"' => pieces escapedPiece
  | '\'' => pieces literalPiece
  | _ => failure

/-- Take a text of several lines. The end of a line right behind the opening quotes is no part of
it. -/
def lines (mark : Char) (hasEscapes : Bool) : Scan (List Char) := do
  for _ in [1, 2, 3] do
    Scan.exactly mark
  let _ ← Scan.optionally newline
  pieces (linesPiece mark hasEscapes)

def text : Scan (List Char) := fun written =>
  if Text.startsWith written ['"', '"', '"'] then lines '"' true written
  else if Text.startsWith written ['\'', '\'', '\''] then lines '\'' false written
  else line written

def hexDigit (digit : Nat) : Char :=
  Nat.digitChar digit

/-- A character in double quotes. What may not stand in a line is written by its code point. -/
def renderCharacter (character : Char) : List Char :=
  if character = '"' ∨ character = '\\' then ['\\', character]
  else if isPlain character then [character]
  else
    ['\\', 'u', '0', '0', hexDigit (character.toNat / 16), hexDigit (character.toNat % 16)]

def render (characters : List Char) : List Char :=
  '"' :: characters.flatMap renderCharacter ++ ['"']

end Curator.Toml.Quoted
