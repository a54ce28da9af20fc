import Curator.Feed.ReportedSize
import Curator.Proofs.Text.Pieces
import Curator.Proofs.Time.Digits
import Mathlib.Data.Rat.Cast.Order
import Mathlib.Tactic.FieldSimp
import Mathlib.Tactic.LinearCombination
import Mathlib.Tactic.Ring

/-! Numerals of reported sizes: the three forms that are accepted, with their values, and the runs
of digits joined by commas and points among which an accepted form may be a part. -/
namespace Curator.ReportedSize

/-- A text does not begin with a decimal digit, so that a run of digits ends in front of it. -/
def EndsRun (text : List Char) : Prop :=
  ∀ first ∈ text.head?, Text.isDecimalDigit first = false

theorem endsRun_cons {first : Char} (noDigit : Text.isDecimalDigit first = false)
    (rest : List Char) : EndsRun (first :: rest) := by
  rintro _ ⟨⟩
  exact noDigit

/-- A run of digits is taken whole, and what does not begin with a digit is left. -/
theorem takeWhile_decimal_append {digits rest : List Char}
    (decimal : ∀ digit ∈ digits, Text.isDecimalDigit digit = true) (ends : EndsRun rest) :
    (digits ++ rest).takeWhile Text.isDecimalDigit = digits ∧
      (digits ++ rest).dropWhile Text.isDecimalDigit = rest := by
  rw [List.takeWhile_append_of_pos decimal, List.dropWhile_append_of_pos decimal]
  cases rest with
  | nil => simp
  | cons first others => simp [ends first rfl]

structure DigitRun where
  digits : List Char
  shown : digits ≠ []
  isDigit : ∀ digit ∈ digits, digit.isDigit = true

namespace DigitRun

def value (run : DigitRun) : Nat :=
  Text.digitsValue 0 run.digits

def single (digit : Char) (isDigit : digit.isDigit = true) : DigitRun :=
  { digits := [digit]
    shown := List.cons_ne_nil digit []
    isDigit := by simpa using isDigit }

/-- A digit in front of others. -/
def cons (digit : Char) (isDigit : digit.isDigit = true) (run : DigitRun) : DigitRun :=
  { digits := digit :: run.digits
    shown := List.cons_ne_nil digit run.digits
    isDigit := by simpa [isDigit] using run.isDigit }

theorem exists_digits_eq_cons (run : DigitRun) :
    ∃ first others, run.digits = first :: others ∧ first.isDigit = true := by
  obtain ⟨first, others, same⟩ := List.exists_cons_of_ne_nil run.shown
  exact ⟨first, others, same, run.isDigit first (by simp [same])⟩

theorem not_mem (run : DigitRun) (mark : Char) (noDigit : mark.isDigit = false) :
    mark ∉ run.digits := fun member => by
  rw [run.isDigit mark member] at noDigit
  cases noDigit

theorem filter_digits (run : DigitRun) : run.digits.filter (· != ',') = run.digits :=
  List.filter_eq_self.mpr fun _ member => bne_iff_ne.mpr fun same =>
    run.not_mem ',' (by decide) (same ▸ member)

theorem isDecimalDigit (run : DigitRun) : ∀ digit ∈ run.digits, Text.isDecimalDigit digit = true :=
  fun digit member => Text.isDecimalDigit_of_isDigit digit (run.isDigit digit member)

theorem takeWhile_append (run : DigitRun) {rest : List Char} (ends : EndsRun rest) :
    (run.digits ++ rest).takeWhile Text.isDecimalDigit = run.digits ∧
      (run.digits ++ rest).dropWhile Text.isDecimalDigit = rest :=
  takeWhile_decimal_append run.isDecimalDigit ends

end DigitRun

/-- The forms of numerals that are accepted. -/
inductive Numeral where
  | plain (whole : DigitRun)
  | fractional (whole fraction : DigitRun) (short : fraction.digits.length ≤ 2)
  | grouped (whole group fraction : DigitRun) (short : fraction.digits.length ≤ 2)

namespace Numeral

def written : Numeral → List Char
  | plain whole => whole.digits
  | fractional whole fraction _ => whole.digits ++ '.' :: fraction.digits
  | grouped whole group fraction _ =>
    whole.digits ++ ',' :: (group.digits ++ '.' :: fraction.digits)

def value : Numeral → Rat
  | plain whole => whole.value
  | fractional whole fraction _ => whole.value + fraction.value / 10 ^ fraction.digits.length
  | grouped whole group fraction _ =>
    (whole.value * 10 ^ group.digits.length + group.value : Nat) +
      fraction.value / 10 ^ fraction.digits.length

theorem exists_written_eq_cons (numeral : Numeral) :
    ∃ first others, numeral.written = first :: others ∧ first.isDigit = true := by
  cases numeral with
  | plain whole => exact whole.exists_digits_eq_cons
  | fractional whole fraction short | grouped whole group fraction short =>
    obtain ⟨first, others, same, isDigit⟩ := whole.exists_digits_eq_cons
    exact ⟨first, others ++ _ :: _, by rw [written, same]; rfl, isDigit⟩

end Numeral

theorem digitsValue_append (left right : List Char) :
    Text.digitsValue 0 (left ++ right) =
      Text.digitsValue 0 left * 10 ^ right.length + Text.digitsValue 0 right := by
  simp only [Text.digitsValue_eq_ofDigitChars, Nat.ofDigitChars_append]
  rw [Nat.ofDigitChars_eq_ofDigitChars_zero, Nat.mul_comm]

theorem read?_digits (run : DigitRun) : Decimal.read? run.digits = some (run.value : Rat) := by
  have noPoint := Text.splitFirst?_eq_none_of_not_mem (run.not_mem '.' (by decide))
  have shown : run.digits.isEmpty = false := List.isEmpty_eq_false_iff.mpr run.shown
  have digits : run.digits.all Char.isDigit = true := List.all_eq_true.mpr run.isDigit
  simp [Decimal.read?, noPoint, shown, digits, DigitRun.value]

theorem read?_point {whole : List Char} (shown : whole ≠ [])
    (digits : ∀ digit ∈ whole, digit.isDigit = true) (fraction : DigitRun) :
    Decimal.read? (whole ++ '.' :: fraction.digits) =
      some (Text.digitsValue 0 whole + fraction.value / 10 ^ fraction.digits.length : Rat) := by
  have noPoint : '.' ∉ whole := fun member => absurd (digits '.' member) (by decide)
  have allDigits : (whole ++ fraction.digits).all Char.isDigit = true := by
    rw [List.all_append, List.all_eq_true.mpr digits, List.all_eq_true.mpr fraction.isDigit]
    rfl
  rw [Decimal.read?, Text.splitFirst?_append_cons noPoint]
  simp only [Option.getD_some, List.isEmpty_eq_false_iff.mpr shown, allDigits, Bool.not_false,
    Bool.and_self, if_true]
  rw [digitsValue_append, DigitRun.value, Nat.pow_eq]
  push_cast
  field_simp

/-- Without its comma, an accepted numeral is read as what it stands for. -/
theorem Numeral.read?_written (numeral : Numeral) :
    Decimal.read? (numeral.written.filter (· != ',')) = some numeral.value := by
  cases numeral with
  | plain whole => rw [written, whole.filter_digits, read?_digits, value]
  | fractional whole fraction short =>
    rw [written, List.filter_append, List.filter_cons_of_pos (by decide), whole.filter_digits,
      fraction.filter_digits, read?_point whole.shown whole.isDigit]
    rfl
  | grouped whole group fraction short =>
    have joined : whole.digits ++ group.digits ≠ [] := by simp [whole.shown]
    have digits : ∀ digit ∈ whole.digits ++ group.digits, digit.isDigit = true := by
      intro digit member
      rcases List.mem_append.mp member with front | behind
      · exact whole.isDigit digit front
      · exact group.isDigit digit behind
    rw [written, List.filter_append, List.filter_cons_of_neg (by decide), List.filter_append,
      List.filter_cons_of_pos (by decide), whole.filter_digits, group.filter_digits,
      fraction.filter_digits, ← List.append_assoc, read?_point joined digits, digitsValue_append]
    rfl

theorem Numeral.exists_hundredths (numeral : Numeral) :
    ∃ count : Nat, numeral.value = count / 100 := by
  have places (whole : Nat) (fraction : DigitRun) (short : fraction.digits.length ≤ 2) :
      ∃ count : Nat,
        (whole + fraction.value / 10 ^ fraction.digits.length : Rat) = count / 100 := by
    refine ⟨whole * 100 + fraction.value * 10 ^ (2 - fraction.digits.length), ?_⟩
    have hundred :
        (10 : Rat) ^ (2 - fraction.digits.length) * 10 ^ fraction.digits.length = 100 := by
      rw [← pow_add, Nat.sub_add_cancel short]
      norm_num
    push_cast
    field_simp
    linear_combination -(fraction.value : Rat) * hundred
  cases numeral with
  | plain whole => exact ⟨whole.value * 100, by simp [value]⟩
  | fractional whole fraction short => exact places whole.value fraction short
  | grouped whole group fraction short => exact places _ fraction short

/-- What may stand between two runs of digits. -/
def IsMark (mark : Char) : Prop :=
  mark = ',' ∨ mark = '.'

/-- Runs of digits with single commas or points between them. -/
inductive IsJoined : List Char → Prop
  | digit {digit : Char} : digit.isDigit = true → IsJoined [digit]
  | more {digit : Char} {rest : List Char} :
    digit.isDigit = true → IsJoined rest → IsJoined (digit :: rest)
  | mark {digit mark : Char} {rest : List Char} :
    digit.isDigit = true → IsMark mark → IsJoined rest → IsJoined (digit :: mark :: rest)

theorem IsMark.isDigit {mark : Char} (isMark : IsMark mark) : mark.isDigit = false := by
  rcases isMark with rfl | rfl <;> rfl

theorem IsJoined.exists_eq_cons {text : List Char} (joined : IsJoined text) :
    ∃ first others, text = first :: others ∧ first.isDigit = true := by
  cases joined with
  | digit isDigit | more isDigit rest | mark isDigit isMark rest => exact ⟨_, _, rfl, isDigit⟩

/-- The first run, which is all of the text or has a mark and another such text behind it. -/
theorem IsJoined.exists_run {text : List Char} (joined : IsJoined text) :
    ∃ run : DigitRun, text = run.digits ∨
      ∃ mark rest, IsMark mark ∧ IsJoined rest ∧ text = run.digits ++ mark :: rest := by
  induction joined with
  | digit isDigit => exact ⟨.single _ isDigit, .inl rfl⟩
  | mark isDigit isMark joined => exact ⟨.single _ isDigit, .inr ⟨_, _, isMark, joined, rfl⟩⟩
  | more isDigit joined ih =>
    obtain ⟨run, rfl | ⟨mark, rest, isMark, joinedRest, rfl⟩⟩ := ih
    · exact ⟨run.cons _ isDigit, .inl rfl⟩
    · exact ⟨run.cons _ isDigit, .inr ⟨mark, rest, isMark, joinedRest, rfl⟩⟩

end Curator.ReportedSize
