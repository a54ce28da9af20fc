import Curator.Text.Basic
import Curator.Text.DecimalDigit
import Curator.Text.Integer

/-! The document that a source sends in place of a feed when it refuses a request, such as `<error
code="100" description="Incorrect user credentials"/>`. -/
namespace Curator

/-- A refusal with its number and its reason. -/
structure ErrorDocument where
  code : UInt32
  description : List Char
deriving DecidableEq, Repr

namespace ErrorDocument

/-- Whether a character is a small letter, a capital one, or the long form of `s`. -/
def isCaseOf (letter character : Char) : Bool :=
  character.toLower == letter || letter == 's' && character.toNat == 0x17F

/-- What follows a word of small letters, which may stand in any case. -/
def afterWord? : (word text : List Char) → Option (List Char)
  | [], text => some text
  | _ :: _, [] => none
  | letter :: word, character :: text =>
    if isCaseOf letter character then afterWord? word text else none

/-- What follows white space, of which there must be some. -/
def afterBlanks? (text : List Char) : Option (List Char) :=
  let rest := Text.trimStart text
  if rest.length < text.length then some rest else none

/-- What follows a declaration: everything to the first `>`, which a question mark precedes. -/
def afterDeclaration? (text : List Char) : Option (List Char) := do
  let inside ← afterWord? "<?xml".toList text
  let (declaration, rest) ← Text.splitFirst? '>' inside
  if declaration.getLast? = some '?' then some (Text.trimStart rest) else none

/-- The digits and the description of an error element at the front of a text. -/
def element? (text : List Char) : Option (List Char × List Char) := do
  let text ← afterWord? "<error".toList text
  let text ← afterBlanks? text
  let text ← afterWord? "code=\"".toList text
  let digits := text.takeWhile Text.isDecimalDigit
  let text ← afterWord? "\"".toList (text.dropWhile Text.isDecimalDigit)
  let text ← afterBlanks? text
  let text ← afterWord? "description=\"".toList text
  let (description, _) ← Text.splitFirst? '"' text
  if digits.isEmpty then none else some (digits, description)

/-- The refusal that a document holds, if it begins with one. -/
def read? (document : List Char) : Option ErrorDocument := do
  let body := Text.trimStart document
  let (digits, description) ← element? ((afterDeclaration? body).getD body)
  let code ← (Text.readUnsigned 4294967295 digits).toOption
  return { code := code.toUInt32, description }

/-- Whether the source wants fewer requests. -/
def isRequestLimit (error : ErrorDocument) : Bool :=
  Text.contains "request limit reached".toList (Text.asciiLowercase error.description)

def message (error : ErrorDocument) : String :=
  s!"error {error.code.toNat}: {String.ofList error.description}"

end ErrorDocument

end Curator
