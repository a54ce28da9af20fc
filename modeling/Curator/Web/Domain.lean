import Curator.Text.Basic
import Curator.Web.Direction
import Curator.Web.DomainCharacter
import Curator.Web.Joining
import Curator.Web.Punycode

/-! Domain names. A name is a list of labels; the characters in which it may be written are far more
than those of its labels, so names are compared by label. -/
namespace Curator

/-- The labels of a name, from the most special to the most general. -/
abbrev DomainLabels := List (List Char)

namespace Domain

def isAscii (text : List Char) : Bool :=
  text.all (·.toNat < 128)

/-- A written name with the characters that its characters stand for, in composed form. Only then it
must be free of marks that no name holds: a mark may have become part of a letter. -/
def spell? (written : List Char) : Option (List Char) := do
  let images ← written.mapM fun character =>
    match DomainCharacter.role character with
    | .kept => some [character]
    | .image text => some text
    | .ignored => some []
    | .refused => none
  let spelled := Text.compose images.flatten
  if spelled.any DomainCharacter.isRefusedMark then none else some spelled

def isSpelled (text : List Char) : Bool :=
  text.all (DomainCharacter.role · == .kept) && spell? text == some text

def mostCode : Nat := 2000

/-- The longest label that has a code. -/
def mostEncoded : Nat := 1000

/-- The label that is behind a label in code. -/
def decodeLabel? (label : List Char) : Option (List Char) :=
  match Text.after? "xn--".toList label with
  | none => some label
  | some code => do
    if code.getLast?.any (· != '-') && code.length ≤ mostCode then
      let decoded ← Punycode.decode? code
      if isSpelled decoded then some decoded else none
    else none

/-- Whether a label begins with no mark, has its joiners in sensible places and can be written in
ASCII. -/
def isWellFormed (label : List Char) : Bool :=
  !label.head?.any Text.isMark && Joining.isSensible [] label &&
    (isAscii label || label.length ≤ mostEncoded)

/-- The labels of a written name. If one of them is written from the right, all keep to one
direction each. -/
def labels? (written : List Char) : Option DomainLabels := do
  let spelled ← spell? written
  let labels ← (Text.splitAll '.' spelled).mapM decodeLabel?
  if labels.all isWellFormed &&
      (!labels.any Direction.runsLeftward || labels.all Direction.isKept) then
    some labels
  else none

/-- Whether a name is the given domain or lies in it. -/
def isWithin (domain labels : DomainLabels) : Bool :=
  domain.isSuffixOf labels

end Domain

end Curator
