import Curator.Web.Domain
import Curator.Text.Integer
import Curator.Text.Utf8

/-! Addresses on the web, as far as the host is concerned. An address begins with a scheme; the
scheme decides which marks end the host and how its name is read. -/
namespace Curator.Address

/-- What a scheme says about the rest of an address. -/
inductive Scheme where
  | network
  | file
  | other
deriving DecidableEq, Repr

def networkSchemes : List String := ["http", "https", "ws", "wss", "ftp"]

def Scheme.ofName (name : List Char) : Scheme :=
  let name := String.ofList (Text.asciiLowercase name)
  if networkSchemes.contains name then .network else if name = "file" then .file else .other

def isBlank (character : Char) : Bool :=
  character.toNat ≤ 32

/-- An address without blanks around it and without the ends of lines and tabulators in it. -/
def clean (written : List Char) : List Char :=
  (((written.dropWhile isBlank).reverse.dropWhile isBlank).reverse).filter fun character =>
    character != '\t' && character != '\n' && character != '\r'

def scheme? (address : List Char) : Option (Scheme × List Char) := do
  let (name, rest) ← Text.splitFirst? ':' address
  let first ← name.head?
  if first.isAlpha &&
      name.all fun character => character.isAlphanum || ['+', '-', '.'].contains character then
    some (.ofName name, rest)
  else none

def isSlash (character : Char) : Bool :=
  character == '/' || character == '\\'

/-- Whether a mark ends the part of an address that holds the host. -/
def endsHost (scheme : Scheme) (character : Char) : Bool :=
  ['/', '?', '#'].contains character || character == '\\' && scheme != .other

/-- Cut at the first colon that does not stand in brackets. -/
def cutPort (isBracketed : Bool) : List Char → List Char × Option (List Char)
  | [] => ([], none)
  | character :: rest =>
    if character = ':' ∧ isBracketed = false then ([], some rest)
    else
      let isBracketed :=
        if character = '[' then true else if character = ']' then false else isBracketed
      let (host, port) := cutPort isBracketed rest
      (character :: host, port)

/-- Whether a port is a number of 16 bits, or nothing. A backslash ends it. -/
def isPort (text : List Char) : Bool :=
  let digits := text.takeWhile (· != '\\')
  digits.all Char.isDigit && Text.digitsValue 0 digits ≤ 65535

/-- The bytes of a text in which a percent sign and two digits stand for one byte. -/
def percentDecode : List Char → List UInt8
  | [] => []
  | '%' :: high :: low :: rest =>
    match Text.hexValue? high, Text.hexValue? low with
    | some high, some low => (high * 16 + low).toUInt8 :: percentDecode rest
    | _, _ => 0x25 :: percentDecode (high :: low :: rest)
  | character :: rest => String.utf8EncodeChar character ++ percentDecode rest

/-- The marks that stand in no host of a scheme without rules of its own. -/
def refusedMarks : List Char :=
  ['\x00', ' ', '#', '/', ':', '<', '>', '?', '@', '[', '\\', ']', '^', '|']

/-- The labels of a host. A host in brackets is a number and has none. -/
def labels? (scheme : Scheme) (host : List Char) : Option DomainLabels :=
  if host.isEmpty || host.head? == some '[' then none
  else if scheme = .other then
    if host.any refusedMarks.contains then none else some (Text.splitAll '.' host)
  else (Text.decodeUtf8? (percentDecode host)).bind Domain.labels?

/-- The labels of the host at the front of what follows the slashes. A name or a password for the
host ends with the last at sign. -/
def authorityLabels? (scheme : Scheme) (text : List Char) : Option DomainLabels :=
  let authority := text.takeWhile (!endsHost scheme ·)
  let located := ((Text.splitLast? '@' authority).map Prod.snd).getD authority
  let (host, port) := cutPort false located
  if port.all isPort then labels? scheme host else none

/-- Whether a text is a letter of a drive, which no host can be. -/
def isDriveLetter (text : List Char) : Bool :=
  match text with
  | [letter, mark] => letter.isAlpha && (mark == ':' || mark == '|')
  | _ => false

/-- A segment of a path in which no dot is written as a percent sign and two digits. -/
def plainDots : List Char → List Char
  | '%' :: '2' :: 'e' :: rest | '%' :: '2' :: 'E' :: rest => '.' :: plainDots rest
  | character :: rest => character :: plainDots rest
  | [] => []

/-- The segments of the path at the front of what follows a host. -/
def segments (text : List Char) : List (List Char) :=
  let path := text.takeWhile fun character => character != '?' && character != '#'
  Text.splitAll '/'
    ((path.drop 1).map fun character => if isSlash character then '/' else character)

/-- Go up from a segment, which is the first of those given. There is no way up from a drive. -/
def parent : List (List Char) → List (List Char)
  | [] => []
  | segment :: above => if isDriveLetter segment then segment :: above else above

/-- Whether a path has a drive as its first segment while it is followed. The segments that lead to
the place are given in reverse. -/
def reachesDrive (above : List (List Char)) : List (List Char) → Bool
  | [] => false
  | segment :: rest =>
    if plainDots segment = ['.', '.'] then reachesDrive (parent above) rest
    else if plainDots segment = ['.'] then reachesDrive above rest
    else above.isEmpty && isDriveLetter segment || reachesDrive (segment :: above) rest

/-- The labels of the host in the address of a file. A path that leads to a drive makes the host
void, and so does the name of this machine. -/
def fileLabels? (text : List Char) : Option DomainLabels :=
  match text with
  | first :: second :: rest =>
    if isSlash first && isSlash second then
      let host := rest.takeWhile (!endsHost .file ·)
      let path := rest.dropWhile (!endsHost .file ·)
      if isDriveLetter host || reachesDrive [] (segments path) then none
      else
        match labels? .file host with
        | some labels => if labels = ["localhost".toList] then none else some labels
        | none => none
    else none
  | _ => none

def hostLabels? (written : List Char) : Option DomainLabels := do
  let (scheme, rest) ← scheme? (clean written)
  match scheme with
  | .network => authorityLabels? .network (rest.dropWhile isSlash)
  | .file => fileLabels? rest
  | .other => authorityLabels? .other (← Text.after? "//".toList rest)

end Curator.Address
