import Curator.Toml.Moment
import Curator.Toml.Number
import Curator.Toml.Quoted

/-! Documents of TOML: lines with assignments under headers. A document is read as a whole; a fault
anywhere in it, also in a part that nobody asks for, makes it no document. -/
namespace Curator.Toml.Document

def blanks : Scan Unit :=
  modify (List.dropWhile Quoted.isBlank)

/-- What follows blanks, ends of lines and comments. -/
def skipLines (inComment : Bool) : List Char → List Char
  | [] => []
  | '\n' :: rest => skipLines false rest
  | '\r' :: rest => if rest.head? = some '\n' then skipLines inComment rest else '\r' :: rest
  | character :: rest =>
    if inComment && Quoted.isPlain character || Quoted.isBlank character then
      skipLines inComment rest
    else if character = '#' then skipLines true rest
    else character :: rest

/-- Take blanks, ends of lines and comments. -/
def emptyLines : Scan Unit :=
  modify (skipLines false)

/-- Take the rest of a line that holds nothing more. -/
def lineEnd : Scan Unit := do
  blanks
  if (← Scan.peek) = some '#' then
    let _ ← Scan.run Quoted.isPlain
  if (← Scan.peek).isSome then Quoted.newline

/-- Whether a character needs no quotes in a key. -/
def isBare (character : Char) : Bool :=
  character.isAlphanum || character == '_' || character == '-'

def key : Scan Key := do
  match ← Scan.peek with
  | some '"' | some '\'' => Quoted.line
  | _ =>
    let name ← Scan.run isBare
    if name.isEmpty then failure else return name

/-- How many parts a key and how many levels a value have fewer than. -/
def depthLimit : Nat := 80

/-- Take a key with dots: the parts before the last dot, and the last part. -/
def keyPath : Scan (List Key × Key) := do
  let parts ← Scan.series do
    blanks
    let part ← key
    blanks
    match ← Scan.peek with
    | some '.' => Scan.exactly '.'; return (part, false)
    | _ => return (part, true)
  match parts.getLast? with
  | some last => if parts.length < depthLimit then return (parts.dropLast, last) else failure
  | none => failure

/-- Take a key and what `value` takes behind an equals sign. -/
def assignment (value : Scan Value) : Scan Assignment := do
  let (path, key) ← keyPath
  Scan.exactly '='
  blanks
  return { path, key, value := ← value }

/-- Take a value that holds no others. -/
def scalar : Scan Value := do
  match ← Scan.peek with
  | some '"' | some '\'' => return .text (← Quoted.text)
  | some 't' => Scan.word "true"; return .truth true
  | some 'f' => Scan.word "false"; return .truth false
  | _ => (do Moment.moment; return .moment) <|> Number.number

/-- Take an array of what `value` takes. A comma may follow the last. -/
def array (value : Scan Value) : Scan Value := do
  Scan.exactly '['
  emptyLines
  if (← Scan.peek) = some ']' then
    Scan.exactly ']'
    return .array []
  else
    return .array (← Scan.series do
      let item ← value
      emptyLines
      match ← Scan.next with
      | ']' => return (item, true)
      | ',' =>
        emptyLines
        if (← Scan.peek) = some ']' then
          Scan.exactly ']'
          return (item, true)
        else return (item, false)
      | _ => failure)

def closingBrace : Char := '\x7d'

/-- Take a table in braces with what `value` takes under its keys. It stands on one line. -/
def braces (value : Scan Value) : Scan Value := do
  Scan.exactly '\x7b'
  blanks
  if (← Scan.peek) = some closingBrace then
    Scan.exactly closingBrace
    return .table .braces []
  else
    let assignments ← Scan.series do
      let assignment ← assignment value
      blanks
      let mark ← Scan.next
      if mark = closingBrace then return (assignment, true)
      else if mark = ',' then return (assignment, false)
      else failure
    match assignments.foldlM Entries.assign? [] with
    | some entries => return .table .braces entries
    | none => failure

/-- Take a value that holds others in at most `levels` levels. -/
def value : (levels : Nat) → Scan Value
  | 0 => scalar
  | levels + 1 => do
    match ← Scan.peek with
    | some '[' => array (value levels)
    | some '\x7b' => braces (value levels)
    | _ => scalar

inductive Line where
  | assignment (assignment : Assignment)
  | header (isMember : Bool) (path : List Key) (key : Key)
deriving Repr

def line : Scan Line := fun text =>
  match text with
  | '[' :: '[' :: rest =>
    (do let (path, key) ← keyPath; Scan.word "]]"; return .header true path key : Scan Line) rest
  | '[' :: rest =>
    (do let (path, key) ← keyPath; Scan.exactly ']'; return .header false path key : Scan Line) rest
  | text => (do return .assignment (← assignment (value (depthLimit - 1))) : Scan Line) text

/-- Take the lines of a document, among which some may be empty. -/
def lines : Scan (List Line) := do
  emptyLines
  if (← Scan.peek).isNone then return []
  else
    Scan.series do
      let line ← line
      lineEnd
      emptyLines
      return (line, (← Scan.peek).isNone)

/-- The assignments before the first header, and the sections. -/
def arrange (lines : List Line) : List Assignment × List Section :=
  lines.foldr (fun line (assignments, sections) =>
    match line with
    | .assignment assignment => (assignment :: assignments, sections)
    | .header isMember path key => ([], { isMember, path, key, assignments } :: sections))
    ([], [])

/-- The mark that may stand at the beginning of a file. -/
def byteOrderMark : Char := Char.ofNat 0xFEFF

def read? (text : List Char) : Option Entries := do
  let text := if text.head? = some byteOrderMark then text.drop 1 else text
  let (assignments, sections) := arrange (← Scan.whole lines text)
  sections.foldlM Entries.addSection? (← assignments.foldlM Entries.assign? [])

end Curator.Toml.Document
