import Curator.Encoding.Basic
import Curator.Markup.Token
import Curator.Text.Integer

/-! Attributes, as they are written in a tag and as they are read. What is no attribute with a value
in quotes is passed over in a tag; in a declaration it hides what follows. -/
namespace Curator.Markup

structure Attribute where
  name : Octets
  value : Octets
deriving DecidableEq, Repr

namespace Attribute

/-- The attributes behind the name in a tag, with nothing in the place of a name without a value and
of a value without quotes. An open quote hides the rest of the tag. -/
def written (octets : Octets) : List (Option Attribute) :=
  match _begin : octets.dropWhile Token.isBlank with
  | [] => []
  | first :: rest =>
    let name := first :: rest.takeWhile fun octet => octet != '=' && !Token.isBlank octet
    match _equals : (rest.dropWhile fun octet => octet != '=' && !Token.isBlank octet).dropWhile
        Token.isBlank with
    | [] => [none]
    | '=' :: behind =>
      match _value : behind.dropWhile Token.isBlank with
      | [] => [none]
      | quote :: quoted =>
        if quote = '"' ∨ quote = '\'' then
          match _cut : Text.splitFirst? quote quoted with
          | some (value, remaining) => some { name, value } :: written remaining
          | none => [none]
        else none :: written (quoted.dropWhile (!Token.isBlank ·))
    | next :: behind => none :: written (next :: behind)
termination_by octets.length
decreasing_by
  all_goals
    have beginning := (List.dropWhile_sublist Token.isBlank (l := octets)).length_le
    rw [_begin] at beginning
    have equals := ((List.dropWhile_sublist Token.isBlank).trans (List.dropWhile_sublist
      (fun octet => octet != '=' && !Token.isBlank octet) (l := rest))).length_le
    rw [_equals] at equals
    simp only [List.length_cons] at beginning equals
  · have value := (List.dropWhile_sublist Token.isBlank (l := behind)).length_le
    rw [_value] at value
    have cut := congrArg List.length (Text.splitFirst?_eq_some _cut).1
    simp only [List.length_cons, List.length_append] at value cut
    omega
  · have value := (List.dropWhile_sublist Token.isBlank (l := behind)).length_le
    rw [_value] at value
    have skipped :=
      (List.dropWhile_sublist (fun octet => !Token.isBlank octet) (l := quoted)).length_le
    simp only [List.length_cons] at value
    omega
  · simp only [List.length_cons]
    omega

def all (octets : Octets) : List Attribute :=
  (written octets).filterMap id

/-- The attributes before the first thing that is none. -/
def leading (octets : Octets) : List Attribute :=
  ((written octets).takeWhile Option.isSome).filterMap id

/-- The encoding that the inside of a declaration names. -/
def declaredEncoding? (inside : Octets) : Option Encoding :=
  ((leading inside).find? (·.name == "encoding".toList)).bind fun entry =>
    Encoding.ofLabel? entry.value

/-- The character for a name that every document knows. -/
def predefined? (name : List Char) : Option Char :=
  match String.ofList name with
  | "lt" => some '<'
  | "gt" => some '>'
  | "amp" => some '&'
  | "apos" => some '\''
  | "quot" => some '"'
  | _ => none

/-- The value of digits of a base, if there are any and all have a value. -/
def digitsIn? (base : Nat) (digits : List Char) : Option Nat :=
  if digits.isEmpty then none
  else
    digits.foldlM (fun value digit => do
      let next ← Text.hexValue? digit
      if next < base then some (value * base + next) else none) 0

/-- The character with a number, written in decimal or after an `x` in hexadecimal. -/
def numbered? (digits : List Char) : Option Char := do
  let number ← match digits with
    | 'x' :: digits => digitsIn? 16 digits
    | digits => digitsIn? 10 digits
  if number ≠ 0 ∧ number.isValidChar then some (Char.ofNat number) else none

/-- What a reference in text stands for. An unknown name stays as it is written. -/
def resolveInText? (name : List Char) : Option (List Char) :=
  match predefined? name, name with
  | some character, _ => some [character]
  | none, '#' :: digits => (numbered? digits).map ([·])
  | none, name => some ('&' :: name ++ [';'])

/-- What a reference in a value stands for. An unknown name has no meaning there. -/
def resolveInValue? (name : List Char) : Option Char :=
  match predefined? name, name with
  | some character, _ => some character
  | none, '#' :: digits => numbered? digits
  | none, _ => none

/-- The meaning of a value: every line end and tab is a blank, references stand for characters. -/
def unescape? (text : List Char) : Option (List Char) :=
  match text with
  | [] => some []
  | '\r' :: '\n' :: rest => (unescape? rest).map (' ' :: ·)
  | '&' :: rest =>
    match _cut : Text.splitFirst? ';' rest with
    | some (name, behind) => do
      let character ← resolveInValue? name
      return character :: (← unescape? behind)
    | none => none
  | character :: rest =>
    (unescape? rest).map ((if Token.isBlank character then ' ' else character) :: ·)
termination_by text.length
decreasing_by
  · simp only [List.length_cons]
    omega
  · have sizes := congrArg List.length (Text.splitFirst?_eq_some _cut).1
    simp only [List.length_cons, List.length_append] at sizes ⊢
    omega
  · simp

def name? (encoding : Encoding) (entry : Attribute) : Option (List Char) :=
  encoding.decode? entry.name

def value? (encoding : Encoding) (entry : Attribute) : Option (List Char) :=
  (encoding.decode? entry.value).bind unescape?

end Attribute

end Curator.Markup
