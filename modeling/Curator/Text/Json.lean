import Curator.Text.Basic
import Curator.Text.Integer

/-! Values written as JSON. The reader keeps the members of objects in order and with their
repetitions; the printer leaves out every blank. -/
namespace Curator

/-- A JSON value. Numbers keep their spelling. A text is absent when its escapes name half of a
surrogate pair, which stands for no character. -/
inductive Json where
  | null
  | bool (value : Bool)
  | number (spelling : List Char)
  | string (text : Option (List Char))
  | array (elements : List Json)
  | object (members : List (Option (List Char) × Json))
deriving Repr

namespace Json

/-- Drop the blanks that may stand between the parts of a value. -/
def skipBlanks (text : List Char) : List Char :=
  text.dropWhile fun character =>
    character == ' ' || character == '\t' || character == '\n' || character == '\r'

/-- Four hexadecimal digits at the front of a text. -/
def readUnit? : List Char → Option (Nat × List Char)
  | a :: b :: c :: d :: rest => do
    let high := (← Text.hexValue? a) * 16 + (← Text.hexValue? b)
    let low := (← Text.hexValue? c) * 16 + (← Text.hexValue? d)
    return (high * 256 + low, rest)
  | _ => none

/-- The character for a letter behind a backslash. -/
def simpleEscape? : Char → Option Char
  | '"' => some '"'
  | '\\' => some '\\'
  | '/' => some '/'
  | 'b' => some '\x08'
  | 'f' => some '\x0c'
  | 'n' => some '\n'
  | 'r' => some '\r'
  | 't' => some '\t'
  | _ => none

/-- Whether a unit is the first half of a surrogate pair. -/
def isLeading (unit : Nat) : Bool :=
  0xD800 ≤ unit && unit < 0xDC00

/-- Whether a unit is the second half of a surrogate pair. -/
def isTrailing (unit : Nat) : Bool :=
  0xDC00 ≤ unit && unit < 0xE000

/-- Put a character before the text that follows it. -/
def prepend (character : Char) :
    Option (List Char) × List Char → Option (List Char) × List Char
  | (text, rest) => (text.map (character :: ·), rest)

/-- A string up to its closing quote. `pending` is a first half of a surrogate pair that waits for
the second one. -/
def readString? (pending : Option Nat) (text : List Char) :
    Option (Option (List Char) × List Char) :=
  match text with
  | [] => none
  | '"' :: rest => some (if pending.isSome then none else some [], rest)
  | '\\' :: 'u' :: a :: b :: c :: d :: rest =>
    match readUnit? [a, b, c, d] with
    | none => none
    | some (unit, _) =>
      match pending with
      | some lead =>
        if isTrailing unit then
          (readString? none rest).map
            (prepend (Char.ofNat ((lead - 0xD800) * 0x400 + (unit - 0xDC00) + 0x10000)))
        else (readString? none rest).map fun (_, rest) => (none, rest)
      | none =>
        if isLeading unit then readString? (some unit) rest
        else if isTrailing unit then (readString? none rest).map fun (_, rest) => (none, rest)
        else (readString? none rest).map (prepend (Char.ofNat unit))
  | '\\' :: letter :: rest =>
    match simpleEscape? letter with
    | none => none
    | some character =>
      (readString? none rest).map fun (text, rest) =>
        if pending.isSome then (none, rest) else prepend character (text, rest)
  | character :: rest =>
    if character.toNat < 0x20 || character == '\\' then none
    else
      (readString? none rest).map fun (text, rest) =>
        if pending.isSome then (none, rest) else prepend character (text, rest)

/-- Digits at the front of a text, of which there must be some. -/
def readDigits? (text : List Char) : Option (List Char × List Char) :=
  let digits := text.takeWhile Char.isDigit
  if digits.isEmpty then none else some (digits, text.dropWhile Char.isDigit)

def readFraction? : List Char → Option (List Char × List Char)
  | '.' :: rest => (readDigits? rest).map fun (digits, rest) => ('.' :: digits, rest)
  | rest => some ([], rest)

def readExponent? : List Char → Option (List Char × List Char)
  | 'e' :: rest | 'E' :: rest =>
    match rest with
    | '+' :: rest => (readDigits? rest).map fun (digits, rest) => ('e' :: digits, rest)
    | '-' :: rest => (readDigits? rest).map fun (digits, rest) => ('e' :: '-' :: digits, rest)
    | rest => (readDigits? rest).map fun (digits, rest) => ('e' :: digits, rest)
  | rest => some ([], rest)

/-- A number. No zero stands before another digit of the whole part. -/
def readNumber? (text : List Char) : Option (List Char × List Char) := do
  let (sign, text) := match text with
    | '-' :: rest => (['-'], rest)
    | text => ([], text)
  let (whole, text) ← match text with
    | '0' :: rest => some (['0'], rest)
    | text => readDigits? text
  let startsWithDigit := match text with
    | next :: _ => next.isDigit
    | [] => false
  if startsWithDigit then none
  else
    let (fraction, text) ← readFraction? text
    let (exponent, text) ← readExponent? text
    return (sign ++ whole ++ fraction ++ exponent, text)

mutual

/-- A value at the front of a text, read in at most `steps` steps. -/
def readValue? (steps : Nat) (text : List Char) : Option (Json × List Char) :=
  match steps with
  | 0 => none
  | steps + 1 =>
    match skipBlanks text with
    | '"' :: rest => (readString? none rest).map fun (text, rest) => (.string text, rest)
    | '[' :: rest =>
      match skipBlanks rest with
      | ']' :: rest => some (.array [], rest)
      | rest => (readElements? steps rest).map fun (elements, rest) => (.array elements, rest)
    | '{' :: rest =>
      match skipBlanks rest with
      | '}' :: rest => some (.object [], rest)
      | rest => (readMembers? steps rest).map fun (members, rest) => (.object members, rest)
    | 'n' :: 'u' :: 'l' :: 'l' :: rest => some (.null, rest)
    | 't' :: 'r' :: 'u' :: 'e' :: rest => some (.bool true, rest)
    | 'f' :: 'a' :: 'l' :: 's' :: 'e' :: rest => some (.bool false, rest)
    | text => (readNumber? text).map fun (spelling, rest) => (.number spelling, rest)

/-- Elements with commas between them, up to the closing bracket. -/
def readElements? (steps : Nat) (text : List Char) : Option (List Json × List Char) :=
  match steps with
  | 0 => none
  | steps + 1 => do
    let (element, rest) ← readValue? steps text
    match skipBlanks rest with
    | ']' :: rest => return ([element], rest)
    | ',' :: rest =>
      let (elements, rest) ← readElements? steps rest
      return (element :: elements, rest)
    | _ => none

/-- Members with commas between them, up to the closing brace. -/
def readMembers? (steps : Nat) (text : List Char) :
    Option (List (Option (List Char) × Json) × List Char) :=
  match steps with
  | 0 => none
  | steps + 1 =>
    match skipBlanks text with
    | '"' :: rest => do
      let (name, rest) ← readString? none rest
      match skipBlanks rest with
      | ':' :: rest =>
        let (value, rest) ← readValue? steps rest
        match skipBlanks rest with
        | '}' :: rest => return ([(name, value)], rest)
        | ',' :: rest =>
          let (members, rest) ← readMembers? steps rest
          return ((name, value) :: members, rest)
        | _ => none
      | _ => none
    | _ => none

end

/-- The value that a text holds, with nothing but blanks around it. -/
def read? (text : List Char) : Option Json :=
  match readValue? (text.length + 1) text with
  | some (value, rest) => if (skipBlanks rest).isEmpty then some value else none
  | none => none

def hexDigit (digit : Nat) : Char :=
  Nat.digitChar digit

/-- A character inside a string. -/
def escape (character : Char) : List Char :=
  match character with
  | '"' => ['\\', '"']
  | '\\' => ['\\', '\\']
  | '\x08' => ['\\', 'b']
  | '\x0c' => ['\\', 'f']
  | '\n' => ['\\', 'n']
  | '\r' => ['\\', 'r']
  | '\t' => ['\\', 't']
  | character =>
    if character.toNat < 0x20 then
      ['\\', 'u', '0', '0', hexDigit (character.toNat / 16), hexDigit (character.toNat % 16)]
    else [character]

def renderString (text : List Char) : List Char :=
  '"' :: text.flatMap escape ++ ['"']

end Json

end Curator
