import Curator.Text.CodePointRange

/-! Texts as lists of characters: trimming, comparing without regard to case, and looking for a
part. Every splitting function returns pieces that append to what it was given. -/
namespace Curator.Text

def whiteSpaceRanges : CodePointRanges :=
  [(0x9, 0xD), (0x20, 0x20), (0x85, 0x85), (0xA0, 0xA0), (0x1680, 0x1680), (0x2000, 0x200A),
   (0x2028, 0x2029), (0x202F, 0x202F), (0x205F, 0x205F), (0x3000, 0x3000)]

def isWhiteSpace (character : Char) : Bool :=
  whiteSpaceRanges.holds character

def trimStart (text : List Char) : List Char :=
  text.dropWhile isWhiteSpace

def trimEnd : List Char → List Char
  | [] => []
  | character :: rest =>
    match trimEnd rest with
    | [] => if isWhiteSpace character then [] else [character]
    | kept => character :: kept

def trim (text : List Char) : List Char :=
  trimEnd (trimStart text)

/-- Small letters for the capital letters of ASCII; all else is kept. -/
def asciiLowercase (text : List Char) : List Char :=
  text.map Char.toLower

def equalsIgnoringCase (left right : List Char) : Bool :=
  asciiLowercase left == asciiLowercase right

def after? : (lead text : List Char) → Option (List Char)
  | [], text => some text
  | _ :: _, [] => none
  | expected :: lead, character :: text =>
    if character = expected then after? lead text else none

theorem after?_eq_some_iff {lead text rest : List Char} :
    after? lead text = some rest ↔ text = lead ++ rest := by
  induction lead generalizing text with
  | nil => simp [after?, eq_comm]
  | cons expected lead ih =>
    cases text with
    | nil => simp [after?]
    | cons character text =>
      by_cases same : character = expected
      · simp [after?, same, ih]
      · simp [after?, same]

def startsWith (text lead : List Char) : Bool :=
  (after? lead text).isSome

def contains (part : List Char) : List Char → Bool
  | [] => part.isEmpty
  | character :: rest => startsWith (character :: rest) part || contains part rest

def splitFirst? (separator : Char) : List Char → Option (List Char × List Char)
  | [] => none
  | character :: rest =>
    if character = separator then some ([], rest)
    else (splitFirst? separator rest).map fun (before, behind) => (character :: before, behind)

def splitLast? (separator : Char) (text : List Char) : Option (List Char × List Char) :=
  (splitFirst? separator text.reverse).map fun (behind, before) => (before.reverse, behind.reverse)

theorem splitFirst?_eq_some {separator : Char} {text before behind : List Char}
    (split : splitFirst? separator text = some (before, behind)) :
    text = before ++ separator :: behind ∧ separator ∉ before := by
  induction text generalizing before with
  | nil => simp [splitFirst?] at split
  | cons character rest ih =>
    by_cases same : character = separator
    · simp [splitFirst?, same] at split
      obtain ⟨rfl, rfl⟩ := split
      simp [same]
    · simp only [splitFirst?, same, if_false, Option.map_eq_some_iff, Prod.mk.injEq] at split
      obtain ⟨⟨front, back⟩, found, rfl, rfl⟩ := split
      obtain ⟨joined, absent⟩ := ih found
      exact ⟨by simp [joined], by simp [Ne.symm same, absent]⟩

/-- The pieces between the separators, one more than there are separators. -/
def splitAll (separator : Char) : List Char → List (List Char)
  | [] => [[]]
  | character :: rest =>
    if character = separator then [] :: splitAll separator rest
    else
      match splitAll separator rest with
      | piece :: pieces => (character :: piece) :: pieces
      | [] => [[character]]

theorem splitAll_ne_nil (separator : Char) (text : List Char) : splitAll separator text ≠ [] := by
  cases text with
  | nil => simp [splitAll]
  | cons character rest =>
    unfold splitAll
    split
    · simp
    · split <;> simp

/-- Leave out every occurrence of `part`, taken from the left without overlap. -/
def without (part : List Char) (text : List Char) : List Char :=
  match text with
  | [] => []
  | character :: rest =>
    match part with
    | [] => character :: rest
    | first :: more =>
      match _found : after? (first :: more) (character :: rest) with
      | some remaining => without (first :: more) remaining
      | none => character :: without (first :: more) rest
termination_by text.length
decreasing_by
  · have joined := after?_eq_some_iff.mp _found
    have sizes := congrArg List.length joined
    simp only [List.length_append, List.length_cons] at sizes ⊢
    omega
  · simp

/-- The text filled up with blanks in front to at least `width` characters. -/
def padLeft (width : Nat) (text : String) : String :=
  "".pushn ' ' (width - text.length) ++ text

/-- The text filled up with blanks behind to at least `width` characters. -/
def padRight (width : Nat) (text : String) : String :=
  text.pushn ' ' (width - text.length)

end Curator.Text
