/-! Characters from bytes in UTF-8. What is not well formed is cut into the longest pieces that
could still have begun a character, and each piece stands for one replacement character. -/
namespace Curator.Text

/-- Whether a byte continues a character. -/
def isContinuation (byte : UInt8) : Bool :=
  0x80 ≤ byte && byte ≤ 0xBF

/-- Whether a byte may come second in a character of three or four bytes. -/
def isSecond (first second : UInt8) : Bool :=
  match first with
  | 0xE0 => 0xA0 ≤ second && second ≤ 0xBF
  | 0xED => 0x80 ≤ second && second ≤ 0x9F
  | 0xF0 => 0x90 ≤ second && second ≤ 0xBF
  | 0xF4 => 0x80 ≤ second && second ≤ 0x8F
  | _ => isContinuation second

/-- The character of leading bits and the six bits each of the bytes that follow. -/
def assemble (leading : Nat) (following : List UInt8) : Char :=
  Char.ofNat (following.foldl (fun bits byte => bits * 64 + (byte.toNat - 0x80)) leading)

/-- The characters of a text in UTF-8, with nothing in the place of each piece that is none. -/
def utf8Pieces : List UInt8 → List (Option Char)
  | [] => []
  | first :: rest =>
    if first < 0x80 then some (Char.ofNat first.toNat) :: utf8Pieces rest
    else if 0xC2 ≤ first ∧ first ≤ 0xDF then
      match rest with
      | second :: rest' =>
        if isContinuation second then
          some (assemble (first.toNat - 0xC0) [second]) :: utf8Pieces rest'
        else none :: utf8Pieces (second :: rest')
      | [] => [none]
    else if 0xE0 ≤ first ∧ first ≤ 0xEF then
      match rest with
      | second :: third :: rest' =>
        if isSecond first second then
          if isContinuation third then
            some (assemble (first.toNat - 0xE0) [second, third]) :: utf8Pieces rest'
          else none :: utf8Pieces (third :: rest')
        else none :: utf8Pieces (second :: third :: rest')
      | [second] => if isSecond first second then [none] else none :: utf8Pieces [second]
      | [] => [none]
    else if 0xF0 ≤ first ∧ first ≤ 0xF4 then
      match rest with
      | second :: third :: fourth :: rest' =>
        if isSecond first second then
          if isContinuation third then
            if isContinuation fourth then
              some (assemble (first.toNat - 0xF0) [second, third, fourth]) :: utf8Pieces rest'
            else none :: utf8Pieces (fourth :: rest')
          else none :: utf8Pieces (third :: fourth :: rest')
        else none :: utf8Pieces (second :: third :: fourth :: rest')
      | [second, third] =>
        if isSecond first second then
          if isContinuation third then [none] else none :: utf8Pieces [third]
        else none :: utf8Pieces [second, third]
      | [second] => if isSecond first second then [none] else none :: utf8Pieces [second]
      | [] => [none]
    else none :: utf8Pieces rest
termination_by bytes => bytes.length

/-- The text that bytes hold, if they are well formed. -/
def decodeUtf8? (bytes : List UInt8) : Option (List Char) :=
  (utf8Pieces bytes).mapM id

/-- The text that bytes hold, with a replacement character for each piece that is none. -/
def decodeUtf8Lossy (bytes : List UInt8) : List Char :=
  (utf8Pieces bytes).map fun piece => piece.getD (Char.ofNat 0xFFFD)

end Curator.Text
