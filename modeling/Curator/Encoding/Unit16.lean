import Curator.Encoding.Octets

/-! Text in units of two bytes each, of which the characters beyond U+FFFF take two. -/
namespace Curator.Unit16

inductive ByteOrder where
  | greatFirst
  | smallFirst
deriving DecidableEq, Repr

def unit (order : ByteOrder) (first second : Char) : Nat :=
  match order with
  | .greatFirst => first.toNat * 256 + second.toNat
  | .smallFirst => second.toNat * 256 + first.toNat

def units? (order : ByteOrder) : Octets → Option (List Nat)
  | [] => some []
  | [_] => none
  | first :: second :: rest => (units? order rest).map (unit order first second :: ·)

/-- The characters of units. The two halves of a character stand together and in their order. -/
def characters? : List Nat → Option (List Char)
  | [] => some []
  | unit :: rest =>
    if unit < 0xD800 ∨ 0xDFFF < unit then (characters? rest).map (Char.ofNat unit :: ·)
    else
      match rest with
      | second :: rest =>
        if unit < 0xDC00 ∧ 0xDC00 ≤ second ∧ second ≤ 0xDFFF then
          (characters? rest).map
            (Char.ofNat (0x10000 + (unit - 0xD800) * 1024 + (second - 0xDC00)) :: ·)
        else none
      | [] => none

def decode? (order : ByteOrder) (octets : Octets) : Option (List Char) :=
  (units? order octets).bind characters?

end Curator.Unit16
