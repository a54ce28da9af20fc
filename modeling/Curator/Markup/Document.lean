import Curator.Markup.Element

/-! Whole documents. The encoding of a document is told by a mark at its beginning until a
declaration, wherever it stands, names one. -/
namespace Curator.Markup

namespace Document

def encodingMarks : List (Octets × Encoding) :=
  [([0xEF, 0xBB, 0xBF], .utf8), ([0xFE, 0xFF], .utf16 .greatFirst),
    ([0xFF, 0xFE], .utf16 .smallFirst)].map fun (numbers, encoding) =>
      (numbers.map Char.ofNat, encoding)

/-- What follows a mark at the beginning of a document, and the encoding that it tells. -/
def afterMark? (octets : Octets) : Option (Octets × Encoding) :=
  encodingMarks.findSome? fun (mark, encoding) =>
    (Text.after? mark octets).map fun behind => (behind, encoding)

/-- Tokens with the encodings that hold for them. The first declaration that names an encoding
settles it for what follows. -/
def withEncodings (current : Encoding) (isSettled : Bool) :
    List Token → List (Encoding × Token)
  | [] => []
  | .declaration inside :: rest =>
    match if isSettled then none else Attribute.declaredEncoding? inside with
    | some declared => (declared, .declaration inside) :: withEncodings declared true rest
    | none => (current, .declaration inside) :: withEncodings current isSettled rest
  | token :: rest => (current, token) :: withEncodings current isSettled rest

def root? (octets : Octets) : Option Element :=
  let (octets, marked) := (afterMark? octets).getD (octets, .utf8)
  Element.root? (withEncodings marked false (Token.all octets))

end Document

end Curator.Markup
