import Curator.Proofs.Feed.Numeral

/-! Where a size is mentioned. Nothing in front of the first digit counts, an accepted numeral is
read to its end, and of joined runs that are not accepted the longest part that is accepted is read.
-/
namespace Curator

theorem Text.isWordCharacter_of_isDecimalDigit {character : Char}
    (digit : isDecimalDigit character = true) : isWordCharacter character = true := by
  have covered : (decimalDigitRanges.all fun range => wordCharacterRanges.any fun wide =>
      Nat.ble wide.1 range.1 && Nat.ble range.2 wide.2) = true := by
    decide +kernel
  simp only [List.all_eq_true, List.any_eq_true, Bool.and_eq_true, Nat.ble_eq] at covered
  obtain ⟨range, member, low, high⟩ := (CodePointRanges.holds_iff _ _).mp digit
  obtain ⟨wide, wideMember, lower, upper⟩ := covered range member
  exact (CodePointRanges.holds_iff _ _).mpr ⟨wide, wideMember, lower.trans low, high.trans upper⟩

namespace ReportedSize

variable {text rest whole : List Char}

/-- A unit as it stands behind a numeral: at most one character that belongs to no word, a spelling
of the unit in letters of any case, and what follows. -/
structure UnitText where
  separator : Option Char
  letters : List Char
  unit : SizeUnit
  after : List Char
  isApart : ∀ character ∈ separator, Text.isWordCharacter character = false
  isSpelled : (String.ofList (Text.asciiLowercase letters), unit) ∈ spellings

def UnitText.written (behind : UnitText) : List Char :=
  behind.separator.toList ++ (behind.letters ++ behind.after)

def BeginsUnit (letter : Char) : Prop :=
  letter.toLower = 'g' ∨ letter.toLower = 'm'

theorem BeginsUnit.cases {letter : Char} (begins : BeginsUnit letter) :
    letter = 'g' ∨ letter = 'G' ∨ letter = 'm' ∨ letter = 'M' := by
  have capitals : 'g'.toNat = 'G'.toNat + 32 ∧ 'm'.toNat = 'M'.toNat + 32 := by decide
  rcases begins with same | same
  · rcases Text.eq_or_capital_of_toLower same with small | ⟨_, _, sum⟩
    · exact .inl small
    · exact .inr (.inl (Char.toNat_inj.mp (by omega)))
  · rcases Text.eq_or_capital_of_toLower same with small | ⟨_, _, sum⟩
    · exact .inr (.inr (.inl small))
    · exact .inr (.inr (.inr (Char.toNat_inj.mp (by omega))))

theorem BeginsUnit.isWordCharacter {letter : Char} (begins : BeginsUnit letter) :
    Text.isWordCharacter letter = true := by
  rcases begins.cases with rfl | rfl | rfl | rfl <;> decide

theorem BeginsUnit.isDecimalDigit {letter : Char} (begins : BeginsUnit letter) :
    Text.isDecimalDigit letter = false := by
  rcases begins.cases with rfl | rfl | rfl | rfl <;> decide

theorem not_beginsUnit_of_isDigit {digit : Char} (isDigit : digit.isDigit = true) :
    ¬ BeginsUnit digit := fun begins => by
  rcases begins.cases with rfl | rfl | rfl | rfl <;> cases isDigit

theorem IsMark.not_beginsUnit {mark : Char} (isMark : IsMark mark) : ¬ BeginsUnit mark := by
  rcases isMark with rfl | rfl <;> unfold BeginsUnit <;> decide

theorem IsMark.isApart {mark : Char} (isMark : IsMark mark) :
    Text.isWordCharacter mark = false := by
  rcases isMark with rfl | rfl <;> decide +kernel

private theorem length_spellings :
    "gb".length = 2 ∧ "mb".length = 2 ∧ "gib".length = 3 ∧ "mib".length = 3 :=
  ⟨rfl, rfl, rfl, rfl⟩

theorem unit?_eq_none {first : Char} (other : ¬ BeginsUnit first) (rest : List Char) :
    unit? (first :: rest) = none := by
  rw [BeginsUnit, not_or] at other
  simp [unit?, spellings, Text.asciiLowercase, length_spellings, other]

theorem isDecimalDigit_of_isApart {separator : Char}
    (isApart : Text.isWordCharacter separator = false) : Text.isDecimalDigit separator = false := by
  rw [← Bool.not_eq_true] at isApart ⊢
  exact mt Text.isWordCharacter_of_isDecimalDigit isApart

theorem IsMark.endsRun {mark : Char} (isMark : IsMark mark) (rest : List Char) :
    EndsRun (mark :: rest) :=
  endsRun_cons (isDecimalDigit_of_isApart isMark.isApart) rest

namespace UnitText

theorem asciiLowercase_letters (behind : UnitText) :
    ∃ spelling, (spelling, behind.unit) ∈ spellings ∧
      Text.asciiLowercase behind.letters = spelling.toList :=
  ⟨_, behind.isSpelled, String.toList_ofList.symm⟩

theorem unit?_letters (behind : UnitText) :
    unit? (behind.letters ++ behind.after) = some behind.unit := by
  obtain ⟨spelling, known, small⟩ := behind.asciiLowercase_letters
  have front (count : Nat) : Text.asciiLowercase ((behind.letters ++ behind.after).take count) =
      (spelling.toList ++ Text.asciiLowercase behind.after).take count := by
    rw [← small, Text.asciiLowercase, List.map_take, List.map_append]
    rfl
  simp only [unit?, front]
  simp only [spellings, List.mem_cons, Prod.mk.injEq, List.not_mem_nil, or_false] at known
  rcases known with ⟨rfl, same⟩ | ⟨rfl, same⟩ | ⟨rfl, same⟩ | ⟨rfl, same⟩ <;>
    simp [spellings, length_spellings, same]

theorem exists_letters_eq_cons (behind : UnitText) :
    ∃ letter others, behind.letters = letter :: others ∧ BeginsUnit letter := by
  obtain ⟨spelling, known, small⟩ := behind.asciiLowercase_letters
  cases letters : behind.letters with
  | nil =>
    rw [letters] at small
    simp only [spellings, List.mem_cons, Prod.mk.injEq, List.not_mem_nil, or_false] at known
    rcases known with ⟨rfl, _⟩ | ⟨rfl, _⟩ | ⟨rfl, _⟩ | ⟨rfl, _⟩ <;> cases small
  | cons letter others =>
    refine ⟨letter, others, rfl, ?_⟩
    by_contra other
    have read := behind.unit?_letters
    rw [letters, List.cons_append, unit?_eq_none other] at read
    cases read

/-- Behind a numeral stands a letter from which the unit is read, or a character that belongs to no
word and behind it such a letter. -/
theorem written_cases (behind : UnitText) :
    ∃ letter others, BeginsUnit letter ∧ unit? (letter :: others) = some behind.unit ∧
      (behind.written = letter :: others ∨
        ∃ separator, Text.isWordCharacter separator = false ∧
          behind.written = separator :: letter :: others) := by
  obtain ⟨letter, others, letters, begins⟩ := behind.exists_letters_eq_cons
  have read := behind.unit?_letters
  unfold written
  rw [letters, List.cons_append] at read ⊢
  refine ⟨letter, others ++ behind.after, begins, read, ?_⟩
  cases apart : behind.separator with
  | none => exact .inl rfl
  | some separator => exact .inr ⟨separator, behind.isApart separator apart, rfl⟩

theorem separatedUnit?_written (behind : UnitText) :
    separatedUnit? behind.written = some behind.unit := by
  obtain ⟨letter, others, begins, read, written | ⟨separator, isApart, written⟩⟩ :=
    behind.written_cases
  · rw [written, separatedUnit?, if_pos begins.isWordCharacter, read]
    rfl
  · rw [written, separatedUnit?, isApart, read]
    rfl

theorem mention?_written (behind : UnitText) (numeral : List Char) :
    mention? numeral behind.written = some ⟨numeral, behind.unit⟩ := by
  rw [mention?, behind.separatedUnit?_written]
  rfl

theorem exists_written_eq_cons (behind : UnitText) :
    ∃ first others, behind.written = first :: others ∧ Text.isDecimalDigit first = false := by
  obtain ⟨letter, others, begins, _, written | ⟨separator, isApart, written⟩⟩ :=
    behind.written_cases
  · exact ⟨letter, others, written, begins.isDecimalDigit⟩
  · exact ⟨separator, letter :: others, written, isDecimalDigit_of_isApart isApart⟩

theorem endsRun (behind : UnitText) : EndsRun behind.written := by
  obtain ⟨first, others, written, noDigit⟩ := behind.exists_written_eq_cons
  rw [written]
  exact endsRun_cons noDigit others

end UnitText

/-- Where more digits follow, directly or behind a mark, no unit does. -/
theorem mention?_eq_none_of_isDigit {digit : Char} (isDigit : digit.isDigit = true)
    (numeral rest : List Char) : mention? numeral (digit :: rest) = none := by
  have inWord := Text.isWordCharacter_of_isDecimalDigit
    (Text.isDecimalDigit_of_isDigit digit isDigit)
  rw [mention?, separatedUnit?, if_pos inWord, unit?_eq_none (not_beginsUnit_of_isDigit isDigit)]
  rfl

theorem IsJoined.mention?_eq_none (joined : IsJoined text) (numeral rest : List Char) :
    mention? numeral (text ++ rest) = none := by
  obtain ⟨first, others, rfl, isDigit⟩ := joined.exists_eq_cons
  exact mention?_eq_none_of_isDigit isDigit numeral _

theorem IsJoined.mention?_mark_eq_none (joined : IsJoined text) {mark : Char} (isMark : IsMark mark)
    (numeral rest : List Char) : mention? numeral (mark :: (text ++ rest)) = none := by
  obtain ⟨first, others, rfl, isDigit⟩ := joined.exists_eq_cons
  rw [mention?, separatedUnit?, isMark.isApart, List.cons_append,
    unit?_eq_none (not_beginsUnit_of_isDigit isDigit), unit?_eq_none isMark.not_beginsUnit]
  rfl

theorem withFraction?_written (fraction : DigitRun) (short : fraction.digits.length ≤ 2)
    (whole : List Char) (behind : UnitText) :
    withFraction? whole (fraction.digits ++ behind.written) =
      some ⟨whole ++ '.' :: fraction.digits, behind.unit⟩ := by
  have isDecimalDigit := fraction.isDecimalDigit
  rcases digits : fraction.digits with _ | ⟨tenth, _ | ⟨hundredth, _ | ⟨other, others⟩⟩⟩
  · exact absurd digits fraction.shown
  · obtain ⟨first, others, written, stops⟩ := behind.exists_written_eq_cons
    have tenthShown := isDecimalDigit tenth (by simp [digits])
    have mentioned := behind.mention?_written (whole ++ ['.', tenth])
    rw [written] at mentioned
    simp [withFraction?, written, tenthShown, stops, mentioned]
  · have tenthShown := isDecimalDigit tenth (by simp [digits])
    have hundredthShown := isDecimalDigit hundredth (by simp [digits])
    simp [withFraction?, tenthShown, hundredthShown, behind.mention?_written]
  · rw [digits] at short
    simp at short

theorem IsJoined.exists_fraction {mention : Mention} (joined : IsJoined text)
    (found : withFraction? whole (text ++ rest) = some mention) :
    ∃ fraction : DigitRun, fraction.digits = text ∧ fraction.digits.length ≤ 2 := by
  cases joined with
  | digit isDigit => exact ⟨.single _ isDigit, rfl, Nat.le_succ 1⟩
  | mark isDigit isMark joined =>
    have noDigit := isDecimalDigit_of_isApart isMark.isApart
    simp [withFraction?, noDigit, joined.mention?_mark_eq_none isMark] at found
  | more isDigit joined =>
    cases joined with
    | digit isDigitToo => exact ⟨.cons _ isDigit (.single _ isDigitToo), rfl, Nat.le_refl 2⟩
    | more isDigitToo joined =>
      simp [withFraction?, joined.mention?_eq_none, mention?_eq_none_of_isDigit isDigitToo] at found
    | mark isDigitToo isMark joined =>
      simp [withFraction?, joined.mention?_mark_eq_none isMark,
        mention?_eq_none_of_isDigit isDigitToo] at found

theorem withFraction?_letter {letter : Char} (begins : BeginsUnit letter) (whole rest : List Char) :
    withFraction? whole (letter :: rest) = none :=
  if_neg (by rw [begins.isDecimalDigit]; exact Bool.false_ne_true)

/-- A group of digits behind a comma, with a fraction behind it. -/
def grouped? (whole text : List Char) : Option Mention :=
  match text.dropWhile Text.isDecimalDigit with
  | '.' :: rest =>
    if (text.takeWhile Text.isDecimalDigit).isEmpty then none
    else withFraction? (whole ++ ',' :: text.takeWhile Text.isDecimalDigit) rest
  | _ => none

/-- What is tried first behind a run of digits. -/
def fractional? (whole : List Char) : List Char → Option Mention
  | '.' :: rest => withFraction? whole rest
  | ',' :: rest => grouped? whole rest
  | _ => none

theorem atFront?_run (run : DigitRun) (ends : EndsRun rest) :
    atFront? (run.digits ++ rest) =
      (fractional? run.digits rest <|> mention? run.digits rest) := by
  obtain ⟨taken, dropped⟩ := run.takeWhile_append ends
  simp only [atFront?, taken, dropped, List.isEmpty_eq_false_iff.mpr run.shown]
  rfl

theorem grouped?_point (group : DigitRun) (whole rest : List Char) :
    grouped? whole (group.digits ++ '.' :: rest) =
      withFraction? (whole ++ ',' :: group.digits) rest := by
  obtain ⟨taken, dropped⟩ := group.takeWhile_append (IsMark.endsRun (.inr rfl) rest)
  simp only [grouped?, taken, dropped, List.isEmpty_eq_false_iff.mpr group.shown]
  rfl

theorem grouped?_eq_none
    (noPoint : ∀ others, text.dropWhile Text.isDecimalDigit ≠ '.' :: others)
    (whole : List Char) : grouped? whole text = none := by
  unfold grouped?
  split
  · rename_i others behind
    exact absurd behind (noPoint others)
  · rfl

theorem BeginsUnit.fractional?_eq_none {letter : Char} (begins : BeginsUnit letter)
    (whole rest : List Char) : fractional? whole (letter :: rest) = none := by
  rcases begins.cases with rfl | rfl | rfl | rfl <;> rfl

/-- A unit begins no fraction, not even behind a point or a comma. -/
theorem UnitText.fractional?_eq_none (behind : UnitText) (whole : List Char) :
    fractional? whole behind.written = none := by
  obtain ⟨letter, others, begins, _, written | ⟨separator, isApart, written⟩⟩ :=
    behind.written_cases
  · rw [written]
    exact begins.fractional?_eq_none whole others
  · rw [written]
    by_cases point : separator = '.'
    · rw [point]
      exact withFraction?_letter begins whole others
    · by_cases comma : separator = ','
      · rw [comma]
        refine grouped?_eq_none ?_ whole
        rw [List.dropWhile_cons_of_neg (by rw [begins.isDecimalDigit]; exact Bool.false_ne_true)]
        rintro _ ⟨⟩
        exact IsMark.not_beginsUnit (.inr rfl) begins
      · simp [fractional?, point, comma]

theorem UnitText.grouped?_eq_none (behind : UnitText) (group : DigitRun) (whole : List Char) :
    grouped? whole (group.digits ++ behind.written) = none := by
  have dropped := (group.takeWhile_append behind.endsRun).2
  obtain ⟨letter, others, begins, _, written | ⟨separator, isApart, written⟩⟩ :=
    behind.written_cases
  · refine ReportedSize.grouped?_eq_none ?_ whole
    rw [dropped, written]
    rintro _ ⟨⟩
    exact IsMark.not_beginsUnit (.inr rfl) begins
  · by_cases point : separator = '.'
    · rw [written, point, grouped?_point]
      exact withFraction?_letter begins _ others
    · refine ReportedSize.grouped?_eq_none ?_ whole
      rw [dropped, written]
      rintro _ ⟨⟩
      exact point rfl

theorem atFront?_written (numeral : Numeral) (behind : UnitText) :
    atFront? (numeral.written ++ behind.written) = some ⟨numeral.written, behind.unit⟩ := by
  cases numeral with
  | plain whole =>
    rw [Numeral.written, atFront?_run whole behind.endsRun, behind.fractional?_eq_none,
      behind.mention?_written]
    rfl
  | fractional whole fraction short =>
    have found := withFraction?_written fraction short whole.digits behind
    rw [Numeral.written, List.append_assoc, List.cons_append,
      atFront?_run whole (IsMark.endsRun (.inr rfl) _), fractional?, found]
    rfl
  | grouped whole group fraction short =>
    have found := withFraction?_written fraction short (whole.digits ++ ',' :: group.digits) behind
    rw [Numeral.written, List.append_assoc, List.cons_append, List.append_assoc, List.cons_append,
      atFront?_run whole (IsMark.endsRun (.inl rfl) _), fractional?, grouped?_point, found]
    simp

/-- At the front of joined runs, they are read as an accepted numeral or not at all. -/
theorem IsJoined.exists_numeral {mention : Mention} (joined : IsJoined text) (behind : UnitText)
    (found : atFront? (text ++ behind.written) = some mention) :
    ∃ numeral : Numeral, numeral.written = text := by
  obtain ⟨whole, rfl | ⟨mark, rest, isMark, joinedRest, rfl⟩⟩ := joined.exists_run
  · exact ⟨.plain whole, rfl⟩
  · rw [List.append_assoc, List.cons_append, atFront?_run whole (isMark.endsRun _),
      joinedRest.mention?_mark_eq_none isMark] at found
    replace found : fractional? whole.digits (mark :: (rest ++ behind.written)) = some mention := by
      simpa using found
    -- Behind a comma there must be one more run and a point, behind a point a fraction.
    rcases isMark with rfl | rfl
    · obtain ⟨group, rfl | ⟨next, others, isNext, joinedOthers, rfl⟩⟩ := joinedRest.exists_run
      · rw [fractional?, behind.grouped?_eq_none] at found
        cases found
      · rcases isNext with rfl | rfl
        · have noPoint : ∀ point, (group.digits ++ ',' :: (others ++ behind.written)).dropWhile
              Text.isDecimalDigit ≠ '.' :: point := by
            rw [(group.takeWhile_append (IsMark.endsRun (.inl rfl) _)).2]
            rintro _ ⟨⟩
          rw [fractional?, List.append_assoc, List.cons_append,
            ReportedSize.grouped?_eq_none noPoint] at found
          cases found
        · rw [fractional?, List.append_assoc, List.cons_append, grouped?_point] at found
          obtain ⟨fraction, rfl, short⟩ := joinedOthers.exists_fraction found
          exact ⟨.grouped whole group fraction short, rfl⟩
    · obtain ⟨fraction, rfl, short⟩ := joinedRest.exists_fraction found
      exact ⟨.fractional whole fraction short, rfl⟩

theorem atFront?_eq_none {first : Char} (noDigit : Text.isDecimalDigit first = false)
    (rest : List Char) : atFront? (first :: rest) = none := by
  rw [atFront?, List.takeWhile_cons_of_neg (by rw [noDigit]; exact Bool.false_ne_true)]
  rfl

theorem first?_append {before : List Char}
    (noDigit : ∀ character ∈ before, Text.isDecimalDigit character = false) (text : List Char) :
    first? (before ++ text) = first? text := by
  induction before with
  | nil => rfl
  | cons character before ih =>
    rw [List.cons_append, first?, atFront?_eq_none (noDigit character List.mem_cons_self),
      ih fun other member => noDigit other (List.mem_cons_of_mem character member)]
    rfl

/-- A numeral is the longest one that a text ends in. -/
structure Numeral.IsLongestTail (tail : Numeral) (text : List Char) : Prop where
  isTail : tail.written <:+ text
  longest : ∀ other : Numeral, other.written <:+ text → other.written <:+ tail.written

theorem Numeral.isLongestTail_written (numeral : Numeral) :
    numeral.IsLongestTail numeral.written :=
  { isTail := List.suffix_rfl
    longest := fun _ isTail => isTail }

theorem Numeral.IsLongestTail.cons {tail : Numeral} (longest : tail.IsLongestTail text)
    {first : Char} (refused : ¬ ∃ numeral : Numeral, numeral.written = first :: text) :
    tail.IsLongestTail (first :: text) :=
  { isTail := longest.isTail.trans (List.suffix_cons first text)
    longest := fun other isTail => by
      rcases List.suffix_cons_iff.mp isTail with same | within
      · exact absurd ⟨other, same⟩ refused
      · exact longest.longest other within }

/-- In front of a unit, what a text mentions first is the longest numeral that it ends in. -/
def MentionsTail (text : List Char) (behind : UnitText) : Prop :=
  ∃ tail : Numeral, tail.IsLongestTail text ∧
    first? (text ++ behind.written) = some ⟨tail.written, behind.unit⟩

theorem first?_written (numeral : Numeral) (behind : UnitText) :
    first? (numeral.written ++ behind.written) = some ⟨numeral.written, behind.unit⟩ := by
  obtain ⟨first, others, written, _⟩ := numeral.exists_written_eq_cons
  have found := atFront?_written numeral behind
  rw [written, List.cons_append] at found ⊢
  rw [first?, found]
  rfl

theorem mentionsTail_written (numeral : Numeral) (behind : UnitText) :
    MentionsTail numeral.written behind :=
  ⟨numeral, numeral.isLongestTail_written, first?_written numeral behind⟩

theorem MentionsTail.cons {behind : UnitText} (mentions : MentionsTail text behind) {first : Char}
    (refused : ¬ ∃ numeral : Numeral, numeral.written = first :: text)
    (notFront : atFront? (first :: (text ++ behind.written)) = none) :
    MentionsTail (first :: text) behind := by
  obtain ⟨tail, longest, found⟩ := mentions
  refine ⟨tail, longest.cons refused, ?_⟩
  rw [List.cons_append, first?, notFront, found]
  rfl

/-- Joined runs are read from where an accepted numeral begins that goes on to their end. -/
theorem IsJoined.mentionsTail (joined : IsJoined text) (behind : UnitText) :
    MentionsTail text behind := by
  have step {first : Char} {text : List Char} (joined : IsJoined (first :: text))
      (behindFirst : MentionsTail text behind) : MentionsTail (first :: text) behind := by
    by_cases accepted : ∃ numeral : Numeral, numeral.written = first :: text
    · obtain ⟨numeral, same⟩ := accepted
      rw [← same]
      exact mentionsTail_written numeral behind
    · refine behindFirst.cons accepted ?_
      rw [Option.eq_none_iff_forall_ne_some]
      exact fun mention found => accepted (joined.exists_numeral behind found)
  induction joined with
  | digit isDigit => exact mentionsTail_written (.plain (.single _ isDigit)) behind
  | more isDigit joined ih => exact step (.more isDigit joined) ih
  | mark isDigit isMark joined ih =>
    refine step (.mark isDigit isMark joined) (ih.cons ?_ ?_)
    · rintro ⟨numeral, same⟩
      obtain ⟨first, others, written, firstDigit⟩ := numeral.exists_written_eq_cons
      rw [written] at same
      rw [(List.cons.inj same).1, isMark.isDigit] at firstDigit
      cases firstDigit
    · exact atFront?_eq_none (isDecimalDigit_of_isApart isMark.isApart) _

end ReportedSize

end Curator
