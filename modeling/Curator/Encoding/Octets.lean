/-! Bytes on their way to characters. They are held as the characters with their numbers, so that
marks of ASCII among them can be written as characters. -/
namespace Curator

/-- Bytes, each as the character with its number. -/
abbrev Octets := List Char

namespace Octets

def ofBytes (bytes : List UInt8) : Octets :=
  bytes.map fun byte => Char.ofNat byte.toNat

def toBytes (octets : Octets) : List UInt8 :=
  octets.map Char.toUInt8

end Octets

end Curator
