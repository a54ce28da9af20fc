import Curator.Proofs.Text.Trim
import Curator.Proofs.Time.Digits
import Mathlib.Tactic.IntervalCases

/-! The fields of written dates: numbers, names, offsets and what stands between them. A scan either
takes a field and leaves the rest of the text, or refuses the text. -/
namespace Curator.Scan

open InternetDate (padded)

variable {α β : Type} {text rest : List Char}

theorem Takes.run_bind {scan : Scan α} {next : α → Scan β} {value : α}
    (taken : scan.Takes text value rest) :
    StateT.run (scan >>= next) text = StateT.run (next value) rest := by
  rw [StateT.run_bind, taken]
  rfl

theorem takes_get (text : List Char) : (get : Scan (List Char)).Takes text text text :=
  rfl

/-- A scan refuses a text. -/
def Fails (scan : Scan α) (text : List Char) : Prop :=
  StateT.run scan text = none

theorem Fails.bind {scan : Scan α} {next : α → Scan β} (refused : scan.Fails text) :
    (scan >>= next).Fails text := by
  rw [Fails, StateT.run_bind, refused]
  rfl

theorem Takes.bind_fails {scan : Scan α} {next : α → Scan β} {value : α}
    (taken : scan.Takes text value rest) (refused : (next value).Fails rest) :
    (scan >>= next).Fails text :=
  taken.run_bind.trans refused

theorem Fails.whole {scan : Scan α} (refused : scan.Fails text) : scan.whole text = none := by
  rw [Scan.whole, refused]

theorem takes_optionally {scan : Scan α} {value : α} (taken : scan.Takes text value rest) :
    (optionally scan).Takes text (some value) rest := by
  simp only [Takes, optionally, StateT.run] at taken ⊢
  rw [taken]

/-- Where a scan refuses a text, the optional one takes nothing of it. -/
theorem takes_optionally_none {scan : Scan α} (refused : scan.Fails text) :
    (optionally scan).Takes text none text := by
  simp only [Fails, Takes, optionally, StateT.run] at refused ⊢
  rw [refused]

theorem exactly_fails {expected character : Char} (other : character ≠ expected)
    (rest : List Char) : (exactly expected).Fails (character :: rest) :=
  if_neg other

theorem exactly_fails_nil (expected : Char) : (exactly expected).Fails [] :=
  rfl

def IsFlush (text : List Char) : Prop :=
  ∀ first, text.head? = some first → Text.isWhiteSpace first = false

theorem isFlush_cons {first : Char} (visible : Text.isWhiteSpace first = false)
    (rest : List Char) : IsFlush (first :: rest) := by
  rintro _ ⟨⟩
  exact visible

theorem isFlush_padded (width number : Nat) (rest : List Char) :
    IsFlush (padded width number ++ rest) := by
  obtain ⟨digit, others, printed, isDigit⟩ := InternetDate.exists_padded_eq_cons width number
  rw [printed]
  exact isFlush_cons (Text.isWhiteSpace_of_isDigit isDigit) _

theorem takes_blanks (flush : IsFlush text) : blanks.Takes text () text := by
  change some ((), Text.trimStart text) = _
  rw [Text.trimStart_eq_self flush]

theorem takes_blanks_nil : blanks.Takes [] () [] :=
  rfl

theorem takes_blanks_padded (width number : Nat) (rest : List Char) :
    blanks.Takes (padded width number ++ rest) () (padded width number ++ rest) :=
  takes_blanks (isFlush_padded width number rest)

theorem takes_field_padded {most number : Nat} (positive : 0 < most) (fits : number < 10 ^ most) :
    (InternetDate.field most).Takes (padded most number ++ rest) number rest :=
  (takes_blanks_padded most number rest).bind (takes_number_padded positive positive fits)

theorem takes_blanks_blank (flush : IsFlush text) : blanks.Takes (' ' :: text) () text := by
  change some ((), Text.trimStart (' ' :: text)) = _
  rw [Text.trimStart, List.dropWhile_cons_of_pos (by decide), ← Text.trimStart,
    Text.trimStart_eq_self flush]

theorem takes_someBlanks (flush : IsFlush text) : someBlanks.Takes (' ' :: text) () text := by
  change (if Text.isWhiteSpace ' ' then some ((), Text.trimStart text) else none) = _
  rw [if_pos (by decide), Text.trimStart_eq_self flush]

theorem someBlanks_fails (flush : IsFlush text) : someBlanks.Fails text := by
  cases text with
  | nil => rfl
  | cons first rest => exact if_neg (by simp [flush first rfl])

/-- A number also ends before the first character that is no digit. -/
theorem takes_number_until {least most : Nat} (digit : ∀ character ∈ text, character.isDigit = true)
    (enough : least ≤ text.length) (short : text.length ≤ most)
    (boundary : ∀ character ∈ rest.head?, character.isDigit = false) :
    (number least most).Takes (text ++ rest) (value text) rest := by
  have taken : ((text ++ rest).take most).takeWhile Char.isDigit = text := by
    rw [List.take_append, List.take_of_length_le short, List.takeWhile_append_of_pos digit]
    cases rest with
    | nil => simp
    | cons next rest =>
      cases most - text.length with
      | zero => simp
      | succ count => simp [boundary next rfl]
  change (if _ then none else some _) = _
  simp only [taken, if_neg (Nat.not_lt.mpr enough), List.drop_left]

theorem takes_number_of_more {least most : Nat}
    (digit : ∀ character ∈ text, character.isDigit = true) (enough : least ≤ most)
    (more : most ≤ text.length) (rest : List Char) :
    (number least most).Takes (text ++ rest) (value (text.take most)) (text.drop most ++ rest) := by
  have taken : (number least most).Takes (text.take most ++ (text.drop most ++ rest))
      (value (text.take most)) (text.drop most ++ rest) :=
    takes_number (fun character member => digit character (List.mem_of_mem_take member))
      (List.length_take_of_le more) enough
  rwa [← List.append_assoc, List.take_append_drop] at taken

theorem number_fails {least most : Nat} (front : List Char) {stop : Char}
    (few : front.length < least) (noDigit : stop.isDigit = false) (rest : List Char) :
    (number least most).Fails (front ++ stop :: rest) := by
  have bounded : ∀ most, (((front ++ stop :: rest).take most).takeWhile Char.isDigit).length ≤
      front.length := by
    clear few
    induction front with
    | nil => intro most; cases most <;> simp [noDigit]
    | cons first front ih =>
      intro most
      cases most with
      | zero => simp
      | succ most =>
        rw [List.cons_append, List.take_succ_cons, List.takeWhile_cons]
        split
        · exact Nat.succ_le_succ (ih most)
        · exact Nat.zero_le _
  exact if_pos (Nat.lt_of_le_of_lt (bounded most) few)

theorem exists_takes_of_longer {width number : Nat} (most : Nat) (positive : 0 < most)
    (longer : most < width) (fits : number < 10 ^ width) (rest : List Char) :
    ∃ value digit others, (Scan.number 1 most).Takes (padded width number ++ rest) value
      (digit :: others) ∧ digit.isDigit = true := by
  have length := InternetDate.length_padded (by omega) fits
  have more : most < (padded width number).length := by omega
  have taken := takes_number_of_more (fun _ => InternetDate.isDigit_of_mem_padded) positive
    more.le rest
  rw [List.drop_eq_getElem_cons more, List.cons_append] at taken
  exact ⟨_, _, _, taken, InternetDate.isDigit_of_mem_padded (List.getElem_mem more)⟩

theorem length_padded_bounds {width most number : Nat} (positive : 0 < width) (wide : width ≤ most)
    (fits : number < 10 ^ most) :
    1 ≤ (padded width number).length ∧ (padded width number).length ≤ most := by
  have short : (Nat.toDigits 10 number).length ≤ most :=
    (Nat.length_toDigits_le_iff (by decide) (by omega)).mpr fits
  rw [padded, List.length_append, List.length_replicate]
  omega

/-- A number that is filled up to fewer digits than it may have is read back up to its end. -/
theorem takes_number_narrow {width most number : Nat} (positive : 0 < width) (wide : width ≤ most)
    (fits : number < 10 ^ most) (boundary : ∀ character ∈ rest.head?, character.isDigit = false) :
    (Scan.number 1 most).Takes (padded width number ++ rest) number rest := by
  obtain ⟨enough, short⟩ := length_padded_bounds positive wide fits
  have taken := takes_number_until (fun _ => InternetDate.isDigit_of_mem_padded) enough short
    boundary
  rwa [InternetDate.value_padded] at taken

/-- The days of the week in three letters, Monday being 0. -/
def weekdayName (day : Nat) : List Char :=
  (["Mon", "Tue", "Wed", "Thu", "Fri", "Sat", "Sun"].getD day "").toList

/-- The months in three letters, January being 1. -/
def monthName (month : Nat) : List Char :=
  (["", "Jan", "Feb", "Mar", "Apr", "May", "Jun", "Jul", "Aug", "Sep", "Oct", "Nov",
    "Dec"].getD month "").toList

theorem takes_weekday {day : Nat} (known : day < 7) (rest : List Char) :
    weekday.Takes (weekdayName day ++ rest) day rest := by
  interval_cases day <;> rfl

theorem takes_month {number : Nat} (first : 1 ≤ number) (last : number ≤ 12) (rest : List Char) :
    month.Takes (monthName number ++ rest) number rest := by
  interval_cases number <;> rfl

theorem exists_weekdayName_eq_cons {day : Nat} (known : day < 7) :
    ∃ first others, weekdayName day = first :: others ∧ first.isAlpha = true := by
  interval_cases day <;> exact ⟨_, _, rfl, by decide⟩

theorem isFlush_weekdayName {day : Nat} (known : day < 7) (rest : List Char) :
    IsFlush (weekdayName day ++ rest) := by
  obtain ⟨letter, others, name, isLetter⟩ := exists_weekdayName_eq_cons known
  rw [name]
  exact isFlush_cons (Text.isWhiteSpace_of_isAlpha isLetter) _

theorem isFlush_monthName {number : Nat} (first : 1 ≤ number) (last : number ≤ 12)
    (rest : List Char) : IsFlush (monthName number ++ rest) := by
  interval_cases number <;> exact isFlush_cons (by decide) _

theorem toLower_of_isDigit {character : Char} (digit : character.isDigit = true) :
    character.toLower = character := by
  have bounds := Text.toNat_bounds_of_isDigit digit
  rcases @Text.eq_or_capital_of_toLower character _ rfl with small | ⟨low, _, _⟩
  · exact small.symm
  · omega

theorem shortName_fails {names : List String} {character : Char}
    (letters : (names.any fun name => name.toList.head?.any Char.isDigit) = false)
    (digit : character.isDigit = true) (rest : List Char) :
    (shortName names).Fails (character :: rest) := by
  have missing : names.findIdx? (fun name =>
      name.toList == Text.asciiLowercase ((character :: rest).take 3)) = none := by
    rw [List.findIdx?_eq_none_iff]
    intro name member
    rw [beq_eq_false_iff_ne]
    intro same
    have lead : name.toList.head? = some character := by
      rw [same]
      exact congrArg some (toLower_of_isDigit digit)
    refine List.any_eq_false.mp letters name member ?_
    rw [lead]
    exact digit
  rw [Fails, StateT.run, shortName, missing]

theorem weekday_fails {character : Char} (digit : character.isDigit = true) (rest : List Char) :
    weekday.Fails (character :: rest) :=
  shortName_fails (by decide) digit rest

theorem month_fails {character : Char} (digit : character.isDigit = true) (rest : List Char) :
    month.Fails (character :: rest) :=
  (shortName_fails (by decide) digit rest).bind

/-- An offset from universal time with its sign. No offset may have either one. -/
def writeOffset (separator : List Char) (minusZero : Bool) (minutes : Int) : List Char :=
  (if minutes < 0 ∨ minutes = 0 ∧ minusZero = true then '-' else '+') ::
    (padded 2 (minutes.natAbs / 60) ++ separator ++ padded 2 (minutes.natAbs % 60))

private def unsignedOffset (between : Scan Unit) (sign : Int) : Scan Int := do
  let hours ← number 2 2
  between
  let minutes ← number 2 2
  if minutes < 60 then return sign * ((hours * 60 + minutes : Nat) : Int) else failure

private theorem run_offset (between : Scan Unit) (allowMinusSign : Bool) (text : List Char) :
    StateT.run (offset between allowMinusSign) ('+' :: text) =
        StateT.run (unsignedOffset between 1) text ∧
      StateT.run (offset between allowMinusSign) ('-' :: text) =
        StateT.run (unsignedOffset between (-1)) text :=
  ⟨rfl, rfl⟩

private theorem takes_unsignedOffset {between : Scan Unit} {separator : List Char}
    (separated : ∀ rest, between.Takes (separator ++ rest) () rest) (sign : Int) {minutes : Nat}
    (withinDay : minutes < 1440) (rest : List Char) :
    (unsignedOffset between sign).Takes
      (padded 2 (minutes / 60) ++ separator ++ padded 2 (minutes % 60) ++ rest)
      (sign * minutes) rest := by
  simp only [List.append_assoc]
  refine (takes_number_padded (by decide) (by decide) (by omega)).bind ?_
  refine (separated _).bind ?_
  refine (takes_number_padded (by decide) (by decide) (by omega)).bind ?_
  rw [if_pos (Nat.mod_lt _ (by decide)), Nat.div_add_mod']
  exact takes_pure _ _

theorem exists_writeOffset_eq_cons (separator : List Char) (minusZero : Bool) (minutes : Int) :
    ∃ sign others, writeOffset separator minusZero minutes = sign :: others ∧
      (sign = '+' ∨ sign = '-') := by
  unfold writeOffset
  split
  · exact ⟨_, _, rfl, .inr rfl⟩
  · exact ⟨_, _, rfl, .inl rfl⟩

theorem takes_writeOffset (between : Scan Unit) (separator : List Char)
    (separated : ∀ rest, between.Takes (separator ++ rest) () rest) {minutes : Int}
    (withinDay : minutes.natAbs < 1440) (minusZero allowMinusSign : Bool) (rest : List Char) :
    (offset between allowMinusSign).Takes (writeOffset separator minusZero minutes ++ rest)
      minutes rest := by
  have fields (sign : Int) := takes_unsignedOffset separated sign withinDay rest
  unfold writeOffset
  split
  · rename_i behind
    have signed : -1 * (minutes.natAbs : Int) = minutes := by omega
    have taken := fields (-1)
    rw [signed] at taken
    rwa [List.cons_append, Takes, (run_offset between allowMinusSign _).2]
  · rename_i ahead
    have signed : 1 * (minutes.natAbs : Int) = minutes := by omega
    have taken := fields 1
    rw [signed] at taken
    rwa [List.cons_append, Takes, (run_offset between allowMinusSign _).1]

end Curator.Scan

namespace Curator.InternetDate

open Scan

variable {rest : List Char}

/-- A time of day is read field by field, whatever its fraction looks like. -/
theorem takes_clock_fields {hour minute second nanos : Nat} {fraction : List Char}
    (hourFits : hour < 100) (minuteFits : minute < 100) (secondFits : second < 100)
    (fractionRead : optionalFraction.Takes (fraction ++ rest) nanos rest) :
    clock.Takes (padded 2 hour ++ ':' :: padded 2 minute ++ ':' :: padded 2 second ++ fraction ++
      rest) (hour, minute, second, nanos) rest := by
  simp only [List.append_assoc, List.cons_append]
  refine (takes_number_padded (by decide) (by decide) hourFits).bind ?_
  refine (takes_exactly ':' _).bind ?_
  refine (takes_number_padded (by decide) (by decide) minuteFits).bind ?_
  refine (takes_exactly ':' _).bind ?_
  refine (takes_number_padded (by decide) (by decide) secondFits).bind ?_
  exact fractionRead.bind (takes_pure _ _)

end Curator.InternetDate
