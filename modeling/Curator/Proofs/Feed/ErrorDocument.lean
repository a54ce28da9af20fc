import Curator.Feed.ErrorDocument
import Curator.Proofs.Feed.Numeral
import Curator.Proofs.Text.Trim
import Curator.Proofs.Time.Fields

/-! The grammar of error documents. Reading looks at each part of a document once, from the front,
and still takes all the documents that there are: words begin with no white space, so that white
space in front of one is taken whole, and a description ends at its first quote. -/
namespace Curator

theorem Text.readUnsigned_eq_ok_iff {limit number : Nat} {digits : List Char} (shown : digits ≠ [])
    (decimal : ∀ digit ∈ digits, isDecimalDigit digit = true) :
    readUnsigned limit digits = .ok number ↔
      (∀ digit ∈ digits, digit.isDigit = true) ∧ number = digitsValue 0 digits ∧ number ≤ limit := by
  have plus : '+' ∉ digits := fun member => absurd (decimal '+' member) (by decide)
  have minus : '-' ∉ digits := fun member => absurd (decimal '-' member) (by decide)
  have unsigned : readUnsigned limit digits = readDigits limit .tooLarge 0 digits := by
    unfold readUnsigned
    split
    · exact absurd rfl shown
    · exact absurd (List.mem_singleton_self _) plus
    · exact absurd (List.mem_singleton_self _) minus
    · exact absurd List.mem_cons_self plus
    · rfl
  rw [unsigned]
  exact readDigits_eq_ok_iff (Nat.zero_le limit)

namespace ErrorDocument

open Scan (IsFlush isFlush_cons)

variable {text rest digits description : List Char}

/-- A character stands for a small letter of a word, or for a mark, in any case. Beside the letters of
ASCII there are the long form of `s` and the sign of kelvins. -/
def IsCase (letter character : Char) : Prop :=
  character.toLower = letter ∨ letter = 's' ∧ character = 'ſ' ∨ letter = 'k' ∧ character = '\u212A'

instance (letter character : Char) : Decidable (IsCase letter character) :=
  inferInstanceAs (Decidable (_ ∨ _))

structure Spelling (word : String) where
  text : List Char
  isSpelled : List.Forall₂ IsCase word.toList text

theorem isCaseOf_iff {letter character : Char} (known : letter ≠ 'k') :
    isCaseOf letter character = true ↔ IsCase letter character := by
  have longS : character.toNat = 0x17F ↔ character = 'ſ' := @Char.toNat_inj character 'ſ'
  simp only [isCaseOf, IsCase, Bool.or_eq_true, Bool.and_eq_true, beq_iff_eq, longS, known,
    false_and, or_false]

theorem afterWord?_append {word spelled : List Char} (known : 'k' ∉ word)
    (isSpelled : List.Forall₂ IsCase word spelled) (rest : List Char) :
    afterWord? word (spelled ++ rest) = some rest := by
  induction isSpelled with
  | nil => rfl
  | cons isCase _ ih =>
    rw [List.mem_cons, not_or] at known
    rw [List.cons_append, afterWord?, if_pos ((isCaseOf_iff (Ne.symm known.1)).mpr isCase),
      ih known.2]

theorem exists_spelled_of_afterWord? {word : List Char} (known : 'k' ∉ word)
    (found : afterWord? word text = some rest) :
    ∃ spelled, List.Forall₂ IsCase word spelled ∧ text = spelled ++ rest := by
  induction word generalizing text with
  | nil => exact ⟨[], .nil, Option.some.inj found⟩
  | cons letter word ih =>
    rw [List.mem_cons, not_or] at known
    cases text with
    | nil => cases found
    | cons character text =>
      rw [afterWord?] at found
      split at found
      · rename_i isCase
        obtain ⟨spelled, isSpelled, rfl⟩ := ih known.2 found
        exact ⟨character :: spelled,
          .cons ((isCaseOf_iff (Ne.symm known.1)).mp isCase) isSpelled, rfl⟩
      · cases found

theorem Spelling.after {word : String} (spelling : Spelling word) (known : 'k' ∉ word.toList)
    (rest : List Char) : afterWord? word.toList (spelling.text ++ rest) = some rest :=
  afterWord?_append known spelling.isSpelled rest

theorem exists_spelling {word : String} (known : 'k' ∉ word.toList)
    (found : afterWord? word.toList text = some rest) :
    ∃ spelling : Spelling word, text = spelling.text ++ rest := by
  obtain ⟨spelled, isSpelled, same⟩ := exists_spelled_of_afterWord? known found
  exact ⟨⟨spelled, isSpelled⟩, same⟩

theorem isWhiteSpace_of_toLower {character : Char}
    (visible : Text.isWhiteSpace character.toLower = false) :
    Text.isWhiteSpace character = false := by
  rcases @Text.eq_or_capital_of_toLower character _ rfl with small | ⟨low, high, _⟩
  · rwa [← small] at visible
  · exact Text.isWhiteSpace_of_bounds (.inr ⟨low, by omega⟩)

theorem IsCase.isWhiteSpace {letter character : Char} (isCase : IsCase letter character)
    (visible : Text.isWhiteSpace letter = false) : Text.isWhiteSpace character = false := by
  rcases isCase with rfl | ⟨_, rfl⟩ | ⟨_, rfl⟩
  · exact isWhiteSpace_of_toLower visible
  · decide
  · decide

/-- White space in front of a word ends where the word begins. -/
theorem Spelling.isFlush {word : String} (spelling : Spelling word) {letter : Char}
    {others : List Char} (leads : word.toList = letter :: others)
    (visible : Text.isWhiteSpace letter = false) (rest : List Char) :
    IsFlush (spelling.text ++ rest) := by
  have isSpelled := spelling.isSpelled
  rw [leads] at isSpelled
  obtain ⟨character, behind, isCase, _, same⟩ := List.forall₂_cons_left_iff.mp isSpelled
  rw [same]
  exact isFlush_cons (isCase.isWhiteSpace visible) _

/-- White space, of which there is some. -/
structure Gap where
  text : List Char
  shown : text ≠ []
  isBlank : Text.IsBlank text

theorem Gap.after (gap : Gap) (flush : IsFlush rest) :
    afterBlanks? (gap.text ++ rest) = some rest := by
  have shorter : rest.length < (gap.text ++ rest).length := by
    have := List.length_pos_iff.mpr gap.shown
    rw [List.length_append]
    omega
  rw [afterBlanks?, Text.trimStart_append gap.isBlank flush]
  exact if_pos shorter

theorem exists_gap (found : afterBlanks? text = some rest) :
    ∃ gap : Gap, text = gap.text ++ rest := by
  unfold afterBlanks? at found
  dsimp only at found
  split at found
  · rename_i shorter
    obtain ⟨blank, isBlank, same⟩ := Text.exists_isBlank_append_trimStart text
    rw [Option.some.inj found] at same shorter
    refine ⟨⟨blank, ?_, isBlank⟩, same⟩
    rintro rfl
    rw [same] at shorter
    exact absurd shorter (lt_irrefl _)
  · cases found

/-- A declaration in front of a document, with the white space behind it. -/
structure Declaration where
  opening : Spelling "<?xml"
  inside : List Char
  blank : List Char
  isInside : '>' ∉ inside
  isBlank : Text.IsBlank blank

def Declaration.write (declaration : Declaration) : List Char :=
  declaration.opening.text ++ declaration.inside ++ "?>".toList ++ declaration.blank

/-- An error element up to what it says, and what stands behind it. -/
structure Element where
  tag : Spelling "<error"
  beforeCode : Gap
  code : Spelling "code=\""
  beforeDescription : Gap
  description : Spelling "description=\""
  rest : List Char

def Element.write (element : Element) (digits description : List Char) : List Char :=
  element.tag.text ++ element.beforeCode.text ++ element.code.text ++ digits ++ ['"'] ++
    element.beforeDescription.text ++ element.description.text ++ description ++ ['"'] ++
    element.rest

structure Layout where
  blank : List Char
  isBlank : Text.IsBlank blank
  declaration : Option Declaration
  element : Element

def Layout.write (layout : Layout) (digits description : List Char) : List Char :=
  layout.blank ++ layout.declaration.elim [] Declaration.write ++
    layout.element.write digits description

theorem Declaration.after (declaration : Declaration) (flush : IsFlush rest) :
    afterDeclaration? (declaration.write ++ rest) = some rest := by
  have noEnd : '>' ∉ declaration.inside ++ ['?'] := by
    simpa using declaration.isInside
  have split : declaration.write ++ rest = declaration.opening.text ++
      ((declaration.inside ++ ['?']) ++ '>' :: (declaration.blank ++ rest)) := by
    simp [write]
  rw [split, afterDeclaration?, declaration.opening.after (by decide)]
  simp only [Option.bind_eq_bind, Option.bind_some, Text.splitFirst?_append_cons noEnd,
    List.getLast?_concat, if_true, Text.trimStart_append declaration.isBlank flush]

theorem exists_declaration (found : afterDeclaration? text = some rest) :
    ∃ declaration : Declaration, text = declaration.write ++ rest := by
  simp only [afterDeclaration?, Option.bind_eq_bind, Option.bind_eq_some_iff] at found
  obtain ⟨behind, opened, ⟨inside, left⟩, split, found⟩ := found
  obtain ⟨opening, rfl⟩ := exists_spelling (by decide) opened
  obtain ⟨rfl, noEnd⟩ := Text.splitFirst?_eq_some split
  split at found
  · rename_i mark
    obtain ⟨before, rfl⟩ := List.getLast?_eq_some_iff.mp mark
    obtain ⟨blank, isBlank, same⟩ := Text.exists_isBlank_append_trimStart left
    rw [Option.some.inj found] at same
    refine ⟨⟨opening, before, blank, ?_, isBlank⟩, ?_⟩
    · exact fun member => noEnd (List.mem_append_left _ member)
    · simp [Declaration.write, same]
  · cases found

theorem afterDeclaration?_tag (tag : Spelling "<error") (rest : List Char) :
    afterDeclaration? (tag.text ++ rest) = none := by
  have isSpelled := tag.isSpelled
  have word : "<error".toList = '<' :: 'e' :: "rror".toList := by decide
  rw [word] at isSpelled
  obtain ⟨first, _, _, behind, tagText⟩ := List.forall₂_cons_left_iff.mp isSpelled
  obtain ⟨second, others, isCase, _, behindText⟩ := List.forall₂_cons_left_iff.mp behind
  have other : isCaseOf '?' second = false := by
    rcases isCase with lowered | ⟨impossible, _⟩ | ⟨impossible, _⟩
    · rw [isCaseOf, lowered]
      rfl
    · cases impossible
    · cases impossible
  have refused : afterWord? "<?xml".toList (tag.text ++ rest) = none := by
    have declared : "<?xml".toList = '<' :: '?' :: "xml".toList := by decide
    rw [tagText, behindText, declared, List.cons_append, List.cons_append, afterWord?, afterWord?,
      other]
    split <;> rfl
  rw [afterDeclaration?, refused]
  rfl

theorem afterWord?_quote_eq_some_iff : afterWord? "\"".toList text = some rest ↔ text = '"' :: rest := by
  have quote : "\"".toList = ['"'] := by decide
  rw [quote]
  constructor
  · intro found
    obtain ⟨_, isSpelled, rfl⟩ := exists_spelled_of_afterWord? (by decide) found
    obtain ⟨character, _, isCase, nothing, rfl⟩ := List.forall₂_cons_left_iff.mp isSpelled
    rw [List.forall₂_nil_left_iff.mp nothing]
    have same : character = '"' := by
      rcases isCase with lowered | ⟨impossible, _⟩ | ⟨impossible, _⟩
      · have code : '"'.toNat = 34 := rfl
        rcases Text.eq_or_capital_of_toLower lowered with small | ⟨low, _, sum⟩
        · exact small
        · omega
      · cases impossible
      · cases impossible
    rw [same]
    rfl
  · rintro rfl
    rfl

theorem Element.write_eq (element : Element) (digits description : List Char) :
    element.write digits description = element.tag.text ++ (element.beforeCode.text ++
      (element.code.text ++ (digits ++ '"' :: (element.beforeDescription.text ++
        (element.description.text ++ (description ++ '"' :: element.rest)))))) := by
  simp [write]

theorem Element.read (element : Element) (shown : digits ≠ [])
    (decimal : ∀ digit ∈ digits, Text.isDecimalDigit digit = true) (noQuote : '"' ∉ description) :
    element? (element.write digits description) = some (digits, description) := by
  have codeFlush := element.code.isFlush (show "code=\"".toList = 'c' :: "ode=\"".toList by decide)
    (by decide)
  have descriptionFlush := element.description.isFlush
    (show "description=\"".toList = 'd' :: "escription=\"".toList by decide) (by decide)
  obtain ⟨taken, left⟩ := ReportedSize.takeWhile_decimal_append decimal
    (ReportedSize.endsRun_cons (show Text.isDecimalDigit '"' = false by decide)
      (element.beforeDescription.text ++
        (element.description.text ++ (description ++ '"' :: element.rest))))
  have filled : digits.isEmpty = false := List.isEmpty_eq_false_iff.mpr shown
  rw [write_eq]
  simp only [element?, Option.bind_eq_bind, element.tag.after (by decide),
    element.beforeCode.after (codeFlush _), element.code.after (by decide), taken, left,
    afterWord?_quote_eq_some_iff.mpr rfl, element.beforeDescription.after (descriptionFlush _),
    element.description.after (by decide), Text.splitFirst?_append_cons noQuote, Option.bind_some,
    filled, Bool.false_eq_true, if_false]

theorem exists_element (found : element? text = some (digits, description)) :
    digits ≠ [] ∧ (∀ digit ∈ digits, Text.isDecimalDigit digit = true) ∧ '"' ∉ description ∧
      ∃ element : Element, text = element.write digits description := by
  simp only [element?, Option.bind_eq_bind, Option.bind_eq_some_iff] at found
  obtain ⟨_, tagged, _, firstGap, coded, named, _, quoted, _, secondGap, _, described,
    ⟨before, rest⟩, split, found⟩ := found
  obtain ⟨tag, rfl⟩ := exists_spelling (by decide) tagged
  obtain ⟨beforeCode, rfl⟩ := exists_gap firstGap
  obtain ⟨code, rfl⟩ := exists_spelling (by decide) named
  have digitsLeft := afterWord?_quote_eq_some_iff.mp quoted
  obtain ⟨beforeDescription, rfl⟩ := exists_gap secondGap
  obtain ⟨word, rfl⟩ := exists_spelling (by decide) described
  obtain ⟨rfl, noQuote⟩ := Text.splitFirst?_eq_some split
  split at found
  · cases found
  · rename_i filled
    obtain ⟨rfl, rfl⟩ := Prod.mk.inj (Option.some.inj found)
    refine ⟨fun nothing => filled (List.isEmpty_iff.mpr nothing),
      fun _ member => List.mem_takeWhile_imp member, noQuote,
      ⟨tag, beforeCode, code, beforeDescription, word, rest⟩, ?_⟩
    have parts : coded = coded.takeWhile Text.isDecimalDigit ++
        coded.dropWhile Text.isDecimalDigit := List.takeWhile_append_dropWhile.symm
    rw [digitsLeft] at parts
    rw [Element.write_eq]
    dsimp only
    rw [← parts]

variable {document : List Char} {error : ErrorDocument}

theorem Element.isFlush (element : Element) (digits description : List Char) :
    IsFlush (element.write digits description) := by
  rw [element.write_eq]
  exact element.tag.isFlush (show "<error".toList = '<' :: "error".toList by decide) (by decide) _

theorem Declaration.isFlush (declaration : Declaration) (rest : List Char) :
    IsFlush (declaration.write ++ rest) := by
  simp only [write, List.append_assoc]
  exact declaration.opening.isFlush (show "<?xml".toList = '<' :: "?xml".toList by decide)
    (by decide) _

/-- In front of an element there is nothing that the reader does not pass. -/
theorem Layout.element_of_write (layout : Layout) (digits description : List Char) :
    element? ((afterDeclaration? (Text.trimStart (layout.write digits description))).getD
      (Text.trimStart (layout.write digits description))) =
        element? (layout.element.write digits description) := by
  obtain ⟨blank, isBlank, declaration, element⟩ := layout
  have flush := element.isFlush digits description
  cases declaration with
  | none =>
    have body : Text.trimStart (write ⟨blank, isBlank, none, element⟩ digits description) =
        element.write digits description := by
      simp only [write, Option.elim_none, List.append_nil, Text.trimStart_append isBlank flush]
    rw [body, element.write_eq, afterDeclaration?_tag, Option.getD_none]
  | some declaration =>
    have body : Text.trimStart (write ⟨blank, isBlank, some declaration, element⟩ digits description) =
        declaration.write ++ element.write digits description := by
      simp only [write, Option.elim_some, List.append_assoc,
        Text.trimStart_append isBlank (declaration.isFlush _)]
    rw [body, declaration.after flush, Option.getD_some]

theorem exists_layout {digits description : List Char}
    (found : element? ((afterDeclaration? (Text.trimStart document)).getD
      (Text.trimStart document)) = some (digits, description)) :
    digits ≠ [] ∧ (∀ digit ∈ digits, Text.isDecimalDigit digit = true) ∧ '"' ∉ description ∧
      ∃ layout : Layout, document = layout.write digits description := by
  obtain ⟨shown, decimal, noQuote, element, body⟩ := exists_element found
  obtain ⟨blank, isBlank, whole⟩ := Text.exists_isBlank_append_trimStart document
  refine ⟨shown, decimal, noQuote, ?_⟩
  cases declared : afterDeclaration? (Text.trimStart document) with
  | none =>
    rw [declared, Option.getD_none] at body
    refine ⟨⟨blank, isBlank, none, element⟩, ?_⟩
    rw [Layout.write, Option.elim_none, List.append_nil, ← body]
    exact whole
  | some rest =>
    rw [declared, Option.getD_some] at body
    obtain ⟨declaration, same⟩ := exists_declaration declared
    refine ⟨⟨blank, isBlank, some declaration, element⟩, ?_⟩
    rw [Layout.write, Option.elim_some, List.append_assoc, ← body, ← same]
    exact whole

theorem readCode_eq_some_iff {digits : List Char} (shown : digits ≠ [])
    (decimal : ∀ digit ∈ digits, Text.isDecimalDigit digit = true) {number : Nat} :
    (Text.readUnsigned 4294967295 digits).toOption = some number ↔
      (∀ digit ∈ digits, digit.isDigit = true) ∧ number = Text.digitsValue 0 digits ∧
        number ≤ 4294967295 := by
  rw [← Text.readUnsigned_eq_ok_iff shown decimal]
  cases Text.readUnsigned 4294967295 digits <;> simp [Except.toOption]

theorem toNat_toUInt32 {number : Nat} (fits : number ≤ 4294967295) :
    number.toUInt32.toNat = number :=
  Nat.mod_eq_of_lt (Nat.lt_succ_of_le fits)

theorem Layout.read (layout : Layout) (digits : ReportedSize.DigitRun)
    (value : digits.value = error.code.toNat) (noQuote : '"' ∉ error.description) :
    read? (layout.write digits.digits error.description) = some error := by
  have small : error.code.toNat ≤ 4294967295 := Nat.le_of_lt_succ error.code.toNat_lt
  have code := (readCode_eq_some_iff digits.shown digits.isDecimalDigit).mpr
    ⟨digits.isDigit, value.symm, small⟩
  have element := layout.element.read digits.shown digits.isDecimalDigit noQuote
  have kept : error.code.toNat.toUInt32 = error.code := UInt32.ofNat_toNat
  rw [read?]
  dsimp only
  rw [layout.element_of_write, element, Option.bind_eq_bind, Option.bind_some]
  dsimp only
  rw [code, Option.bind_eq_bind, Option.bind_some, kept]
  rfl

theorem exists_layout_of_read? (found : read? document = some error) :
    ∃ (layout : Layout) (digits : ReportedSize.DigitRun),
      digits.value = error.code.toNat ∧ '"' ∉ error.description ∧
        document = layout.write digits.digits error.description := by
  simp only [read?, Option.bind_eq_bind, Option.bind_eq_some_iff] at found
  obtain ⟨⟨digits, description⟩, element, number, code, same⟩ := found
  obtain rfl := Option.some.inj same
  obtain ⟨shown, decimal, noQuote, layout, written⟩ := exists_layout element
  obtain ⟨isDigit, value, small⟩ := (readCode_eq_some_iff shown decimal).mp code
  refine ⟨layout, ⟨digits, shown, isDigit⟩, ?_, noQuote, written⟩
  exact (value.symm.trans (toNat_toUInt32 small).symm)

def paddedRun (width number : Nat) : ReportedSize.DigitRun where
  digits := InternetDate.padded width number
  shown := by
    obtain ⟨digit, rest, same, _⟩ := InternetDate.exists_padded_eq_cons width number
    rw [same]
    exact List.cons_ne_nil digit rest
  isDigit := fun _ => InternetDate.isDigit_of_mem_padded

/-- The reader takes the documents of the grammar and no others, and tells the number and the reason
that they were written with. -/
theorem read?_by_grammar :
    (∀ document error, read? document = some error ↔
      ∃ (layout : Layout) (digits : ReportedSize.DigitRun),
        digits.value = error.code.toNat ∧ '"' ∉ error.description ∧
          document = layout.write digits.digits error.description) ∧
    ∀ (layout : Layout) (width : Nat) (error : ErrorDocument), '"' ∉ error.description →
      read? (layout.write (InternetDate.padded width error.code.toNat) error.description) =
        some error := by
  constructor
  · intro document error
    constructor
    · exact exists_layout_of_read?
    · rintro ⟨layout, digits, value, noQuote, rfl⟩
      exact layout.read digits value noQuote
  · intro layout width error noQuote
    exact layout.read (paddedRun width error.code.toNat) (InternetDate.value_padded _ _) noQuote

/-- A refusal in capital letters, with a long `s` in one of its words. -/
theorem read?_by_grammar_of_capitals :
    read? " <?XML version='1.0'??>\n<ERROR  CODE=\"0042\"\tDEſCRIPTION=\"a > b\">".toList =
      some ⟨42, "a > b".toList⟩ := by
  let declaration : Declaration :=
    { opening := ⟨"<?XML".toList, by decide⟩
      inside := " version='1.0'?".toList
      blank := ['\n']
      isInside := by decide
      isBlank := by decide }
  let element : Element :=
    { tag := ⟨"<ERROR".toList, by decide⟩
      beforeCode := ⟨"  ".toList, by decide, by decide⟩
      code := ⟨"CODE=\"".toList, by decide⟩
      beforeDescription := ⟨['\t'], by decide, by decide⟩
      description := ⟨"DEſCRIPTION=\"".toList, by decide⟩
      rest := ['>'] }
  let layout : Layout :=
    { blank := [' ']
      isBlank := by decide
      declaration := some declaration
      element }
  have written : layout.write (InternetDate.padded 4 42) "a > b".toList =
      " <?XML version='1.0'??>\n<ERROR  CODE=\"0042\"\tDEſCRIPTION=\"a > b\">".toList := by
    decide +kernel
  rw [← written]
  exact read?_by_grammar.2 layout 4 ⟨42, "a > b".toList⟩ (by decide)

end ErrorDocument

end Curator
