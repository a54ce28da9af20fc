import Curator.Text.Json

/-! Texts written as JSON are read back, whatever characters they have. -/
namespace Curator.Json

theorem hexValue?_hexDigit {digit : Nat} (within : digit < 16) :
    Text.hexValue? (hexDigit digit) = some digit := by
  have all : ∀ digit < 16, Text.hexValue? (hexDigit digit) = some digit := by decide
  exact all digit within

theorem readUnit?_low {value : Nat} (within : value < 256) :
    readUnit? ['0', '0', hexDigit (value / 16), hexDigit (value % 16)] = some (value, []) := by
  have zero : Text.hexValue? '0' = some 0 := rfl
  have high := hexValue?_hexDigit (show value / 16 < 16 by omega)
  have low := hexValue?_hexDigit (show value % 16 < 16 by omega)
  simp only [readUnit?, zero, high, low, Option.bind_eq_bind, Option.bind_some, Option.pure_def,
    Option.some.injEq, Prod.mk.injEq, and_true]
  omega

private theorem readString?_letter {letter character : Char}
    (known : simpleEscape? letter = some character) (rest : List Char) :
    readString? none ('\\' :: letter :: rest) =
      (readString? none rest).map (prepend character) := by
  have notUnit : letter ≠ 'u' := by
    rintro rfl
    cases known
  rw [readString?]
  · simp only [known]
    rfl
  · intro _ _ _ _ _ unit
    exact absurd unit notUnit

private theorem readString?_unit {value : Nat} (within : value < 0x20) (rest : List Char) :
    readString? none
        ('\\' :: 'u' :: '0' :: '0' :: hexDigit (value / 16) :: hexDigit (value % 16) :: rest) =
      (readString? none rest).map (prepend (Char.ofNat value)) := by
  have notLeading : isLeading value = false := by
    simp only [isLeading, Bool.and_eq_false_iff, decide_eq_false_iff_not]
    omega
  have notTrailing : isTrailing value = false := by
    simp only [isTrailing, Bool.and_eq_false_iff, decide_eq_false_iff_not]
    omega
  rw [readString?, readUnit?_low (by omega)]
  simp only [notLeading, notTrailing]
  rfl

private theorem readString?_plain {character : Char} (notQuote : character ≠ '"')
    (notBackslash : character ≠ '\\') (visible : ¬ character.toNat < 0x20) (rest : List Char) :
    readString? none (character :: rest) = (readString? none rest).map (prepend character) := by
  rw [readString?]
  · simp only [visible, beq_eq_false_iff_ne.mpr notBackslash]
    rfl
  · exact fun quote => notQuote quote
  · intro _ _ _ _ _ backslash
    exact absurd backslash notBackslash
  · intro _ _ backslash
    exact absurd backslash notBackslash

/-- A character is read back from the way it is written inside a string. -/
theorem readString?_escape (character : Char) (rest : List Char) :
    readString? none (escape character ++ rest) =
      (readString? none rest).map (prepend character) := by
  unfold escape
  split
  case h_8 notQuote notBackslash _ _ _ _ _ =>
    split
    · rename_i control
      have same : Char.ofNat character.toNat = character := Char.ofNat_toNat character
      have read := readString?_unit control rest
      rwa [same] at read
    · rename_i visible
      exact readString?_plain notQuote notBackslash visible rest
  -- The characters with a letter of their own behind the backslash are left.
  all_goals exact readString?_letter rfl rest

theorem readString?_text (text rest : List Char) :
    readString? none (text.flatMap escape ++ '"' :: rest) = some (some text, rest) := by
  induction text with
  | nil =>
    rw [List.flatMap_nil, List.nil_append, readString?]
    rfl
  | cons character text ih =>
    rw [List.flatMap_cons, List.append_assoc, readString?_escape, ih]
    rfl

/-- A value is read off the front of a text within any number of steps from `steps` on. -/
def Reads (steps : Nat) (text : List Char) (value : Json) : Prop :=
  ∀ more rest, readValue? (more + steps) (text ++ rest) = some (value, rest)

/-- The members of an object are read off the front of a text that closes the object. -/
def ReadsMembers (steps : Nat) (text : List Char) (members : List (Option (List Char) × Json)) :
    Prop :=
  ∀ more rest, readMembers? (more + steps) (text ++ rest) = some (members, rest)

variable {steps fewer : Nat} {text name written : List Char} {value : Json}
  {members : List (Option (List Char) × Json)}

theorem Reads.mono (reads : Reads fewer text value) (enough : fewer ≤ steps) :
    Reads steps text value := by
  intro more rest
  have split : more + steps = more + (steps - fewer) + fewer := by omega
  rw [split]
  exact reads _ rest

theorem Reads.read? (reads : Reads steps text value) (enough : steps ≤ text.length + 1) :
    Json.read? text = some value := by
  have whole := reads.mono enough 0 []
  rw [Nat.zero_add, List.append_nil] at whole
  rw [Json.read?, whole]
  rfl

theorem reads_renderString (text : List Char) :
    Reads 1 (renderString text) (.string (some text)) := by
  intro more rest
  have quoted : skipBlanks (renderString text ++ rest) =
      '"' :: (text.flatMap escape ++ '"' :: rest) := by
    simp [renderString, skipBlanks]
  rw [readValue?, quoted]
  simp only [readString?_text, Option.map_some]

theorem reads_null : Reads 1 "null".toList .null := by
  intro more rest
  rfl

theorem ReadsMembers.last (reads : Reads steps written value) (name : List Char) :
    ReadsMembers (steps + 1) (renderString name ++ ':' :: written ++ ['}'])
      [(some name, value)] := by
  intro more rest
  have quoted : skipBlanks (renderString name ++ ':' :: written ++ ['}'] ++ rest) =
      '"' :: (name.flatMap escape ++ '"' :: ':' :: (written ++ '}' :: rest)) := by
    simp [renderString, skipBlanks]
  rw [← Nat.add_assoc, readMembers?, quoted]
  simp only [readString?_text, Option.bind_eq_bind, Option.bind_some]
  change (readValue? (more + steps) (written ++ '}' :: rest)).bind _ = _
  rw [reads more]
  rfl

/-- A member with others behind it is read with its name before them. -/
theorem ReadsMembers.cons (reads : Reads steps written value) (name : List Char)
    (others : ReadsMembers steps text members) :
    ReadsMembers (steps + 1) (renderString name ++ ':' :: written ++ ',' :: text)
      ((some name, value) :: members) := by
  intro more rest
  have quoted : skipBlanks (renderString name ++ ':' :: written ++ ',' :: text ++ rest) =
      '"' :: (name.flatMap escape ++ '"' :: ':' :: (written ++ ',' :: (text ++ rest))) := by
    simp [renderString, skipBlanks]
  rw [← Nat.add_assoc, readMembers?, quoted]
  simp only [readString?_text, Option.bind_eq_bind, Option.bind_some]
  change (readValue? (more + steps) (written ++ ',' :: (text ++ rest))).bind _ = _
  rw [reads more]
  change (readMembers? (more + steps) (text ++ rest)).bind _ = _
  rw [others more]
  rfl

theorem ReadsMembers.object (reads : ReadsMembers steps ('"' :: text) members) :
    Reads (steps + 1) ('{' :: '"' :: text) (.object members) := by
  intro more rest
  rw [← Nat.add_assoc, readValue?]
  change (readMembers? (more + steps) ('"' :: text ++ rest)).map _ = _
  rw [reads more]
  rfl

end Curator.Json
