import Curator.Markup.Attribute

/-! Elements with what stands in them, and the text that can be read from them. Every tag in an
element is closed by a tag of its name; only the outermost element may be left open at the end of a
document. -/
namespace Curator.Markup

inductive Part where
  | text (written : Encoded)
  | reference (name : Encoded)
  | verbatim (written : Encoded)
  /-- The inside of a start tag, the contents, and the encoding where the element ends. -/
  | element (tag : Encoded) (contents : List Part) (ending : Encoding)
deriving Repr

/-- An element: the inside of its start tag, its contents in order, and the encoding where it
ends. -/
structure Element where
  tag : Encoded
  contents : List Part
  ending : Encoding
deriving Repr

namespace Element

def nameOf (tag : Octets) : Octets :=
  tag.takeWhile (!Token.isBlank ·)

def name (element : Element) : Encoded :=
  { element.tag with octets := nameOf element.tag.octets }

def endName (element : Element) : Encoded :=
  { encoding := element.ending, octets := nameOf element.tag.octets }

/-- The attributes of the element. -/
def attributes (element : Element) : List Attribute :=
  Attribute.all (element.tag.octets.drop element.name.octets.length)

/-- Add a closed element to the element around it, or find that it was the outermost. The elements
that are open hold their contents in reverse. -/
def close (element : Element) : List Element → Element ⊕ List Element
  | [] => .inl element
  | outer :: others =>
    let inner := .element element.tag element.contents element.ending
    .inr ({ outer with contents := inner :: outer.contents } :: others)

/-- Add something that is no element to the innermost open one. -/
def add (part : Part) : List Element → List Element
  | [] => []
  | inner :: others => { inner with contents := part :: inner.contents } :: others

/-- The first outermost element among tokens, some elements being open. What follows it does not
count; a tag that closes nothing makes it fail, and so does an inner element that is not closed. -/
def build? (isOpen : List Element) : List (Encoding × Token) → Option Element
  | [] =>
    match isOpen with
    | [root] => some { root with contents := root.contents.reverse }
    | _ => none
  | (_, .malformed) :: _ => none
  | (encoding, .text octets) :: rest => build? (add (.text { encoding, octets }) isOpen) rest
  | (encoding, .reference octets) :: rest =>
    build? (add (.reference { encoding, octets }) isOpen) rest
  | (encoding, .verbatim octets) :: rest =>
    build? (add (.verbatim { encoding, octets }) isOpen) rest
  | (_, .declaration _) :: rest | (_, .aside) :: rest => build? isOpen rest
  | (encoding, .start octets isEmpty) :: rest =>
    let element : Element :=
      { tag := { encoding, octets }, contents := [], ending := encoding }
    if isEmpty then
      match close element isOpen with
      | .inl root => some root
      | .inr isOpen => build? isOpen rest
    else build? (element :: isOpen) rest
  | (ending, .finish name) :: rest =>
    match isOpen with
    | [] => none
    | inner :: others =>
      if inner.name.octets = name then
        match close { inner with contents := inner.contents.reverse, ending } others with
        | .inl root => some root
        | .inr isOpen => build? isOpen rest
      else none

def root? (tokens : List (Encoding × Token)) : Option Element :=
  build? [] tokens

def children (contents : List Part) : List Element :=
  contents.filterMap fun
    | .element tag contents ending => some { tag, contents, ending }
    | _ => none

/-- The text of one piece of contents; elements have none. -/
def partText? : Part → Option (List Char)
  | .text written | .verbatim written => written.text?
  | .reference name => name.text?.bind Attribute.resolveInText?
  | .element _ _ _ => some []

/-- The text of contents without the blanks around it. -/
def text? (contents : List Part) : Option (List Char) :=
  (contents.mapM partText?).map fun pieces => Text.trim pieces.flatten

end Element

end Curator.Markup
