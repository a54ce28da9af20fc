import Curator.Encoding.Chinese
import Curator.Encoding.CodePage
import Curator.Encoding.DoubleByte
import Curator.Encoding.Japanese
import Curator.Encoding.Unit16
import Curator.Text.Basic
import Curator.Text.Utf8

/-! How the bytes of a document stand for characters, and the names of the ways to do so. -/
namespace Curator

inductive Encoding where
  | utf8
  | utf16 (order : Unit16.ByteOrder)
  | singleByte (page : CodePage)
  | gb18030
  | bigFive
  | korean
  | shiftedJapanese
  | extendedJapanese
  | escapedJapanese
  /-- The bytes from 128 on stand for characters that users share among themselves. -/
  | userDefined
  /-- A name that stands for encodings that are not to be read. -/
  | unreadable
deriving DecidableEq, Repr

namespace Encoding

/-- The character of a byte where users share those from 128 on among themselves. -/
def userDefinedCharacter (octet : Char) : Char :=
  if octet.toNat < 128 then octet else Char.ofNat (0xF780 + (octet.toNat - 128))

def decode? : Encoding → Octets → Option (List Char)
  | utf8, octets => Text.decodeUtf8? octets.toBytes
  | utf16 order, octets => Unit16.decode? order octets
  | singleByte page, octets => page.decode? octets
  | gb18030, octets => Chinese.decode? octets
  | bigFive, octets => DoubleByte.bigFive.decode? octets
  | korean, octets => DoubleByte.korean.decode? octets
  | shiftedJapanese, octets => DoubleByte.shiftedJapanese.decode? octets
  | extendedJapanese, octets => Japanese.decodeExtended? octets
  | escapedJapanese, octets => Japanese.decodeEscaped? .ascii false octets
  | userDefined, octets => some (octets.map userDefinedCharacter)
  | unreadable, octets => if octets.isEmpty then some [] else none

/-- The names of the encodings with more than one byte for a character. -/
def labels : List (Encoding × List String) :=
  [(utf8,
     ["unicode-1-1-utf-8", "unicode11utf8", "unicode20utf8", "utf-8", "utf8", "x-unicode20utf8"]),
   (utf16 .smallFirst,
     ["csunicode", "iso-10646-ucs-2", "ucs-2", "unicode", "unicodefeff", "utf-16", "utf-16le"]),
   (utf16 .greatFirst, ["unicodefffe", "utf-16be"]),
   (gb18030,
     ["chinese", "csgb2312", "csiso58gb231280", "gb18030", "gb2312", "gb_2312", "gb_2312-80", "gbk",
       "iso-ir-58", "x-gbk"]),
   (bigFive, ["big5", "big5-hkscs", "cn-big5", "csbig5", "x-x-big5"]),
   (korean,
     ["cseuckr", "csksc56011987", "euc-kr", "iso-ir-149", "korean", "ks_c_5601-1987",
       "ks_c_5601-1989", "ksc5601", "ksc_5601", "windows-949"]),
   (shiftedJapanese,
     ["csshiftjis", "ms932", "ms_kanji", "shift-jis", "shift_jis", "sjis", "windows-31j",
       "x-sjis"]),
   (extendedJapanese, ["cseucpkdfmtjapanese", "euc-jp", "x-euc-jp"]),
   (escapedJapanese, ["csiso2022jp", "iso-2022-jp"]),
   (userDefined, ["x-user-defined"]),
   (unreadable,
     ["csiso2022kr", "hz-gb-2312", "iso-2022-cn", "iso-2022-cn-ext", "iso-2022-kr",
       "replacement"])]

/-- The blanks that may stand around the name of an encoding. -/
def isLabelBlank (character : Char) : Bool :=
  [' ', '\t', '\n', '\x0c', '\r'].contains character

/-- The encoding with a name, in any case and with blanks around it. -/
def ofLabel? (label : List Char) : Option Encoding :=
  let name := ((label.dropWhile isLabelBlank).reverse.dropWhile isLabelBlank).reverse
  let label := String.ofList (Text.asciiLowercase name)
  (labels.find? (·.2.contains label)).map Prod.fst <|> (CodePage.ofLabel? label).map singleByte

end Encoding

/-- Octets together with the encoding in which they are written. -/
structure Encoded where
  encoding : Encoding
  octets : Octets
deriving DecidableEq, Repr

/-- The text that encoded octets stand for. -/
def Encoded.text? (encoded : Encoded) : Option (List Char) :=
  encoded.encoding.decode? encoded.octets

end Curator
