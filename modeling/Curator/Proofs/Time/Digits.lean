import Curator.Proofs.Text.Ascii
import Curator.Time.InternetDate
import Mathlib.Algebra.Group.Nat.Defs
import Mathlib.Data.List.TakeWhile

/-! Numbers of a fixed width: what is printed with so many digits is read back from them. -/
namespace Curator

theorem Text.digitsValue_eq_ofDigitChars (value : Nat) (digits : List Char) :
    digitsValue value digits = Nat.ofDigitChars 10 digits value := by
  rw [digitsValue, Nat.ofDigitChars_eq_foldl]
  congr
  funext value character
  rw [digitOffset, Nat.mul_comm]

namespace InternetDate

theorem isDigit_of_mem_padded {width number : Nat} {character : Char}
    (member : character ∈ padded width number) : character.isDigit = true := by
  rcases List.mem_append.mp member with filler | digit
  · rw [(List.mem_replicate.mp filler).2]
    rfl
  · exact Nat.isDigit_of_mem_toDigits (by decide) (by decide) digit

theorem length_padded {width number : Nat} (positive : 0 < width)
    (fits : number < 10 ^ width) : (padded width number).length = width := by
  have short : (Nat.toDigits 10 number).length ≤ width :=
    (Nat.length_toDigits_le_iff (by decide) positive).mpr fits
  rw [padded, List.length_append, List.length_replicate]
  omega

theorem value_padded (width number : Nat) : Scan.value (padded width number) = number := by
  rw [Scan.value, Text.digitsValue_eq_ofDigitChars, padded, Nat.ofDigitChars_append,
    Nat.ofDigitChars_replicate_zero, Nat.mul_zero, Nat.ofDigitChars_ten_toDigits]

theorem exists_padded_eq_cons (width number : Nat) :
    ∃ digit rest, padded width number = digit :: rest ∧ digit.isDigit = true := by
  cases printed : padded width number with
  | nil => exact absurd (List.append_eq_nil_iff.mp printed).2 Nat.toDigits_ne_nil
  | cons digit rest =>
    exact ⟨digit, rest, rfl, isDigit_of_mem_padded (printed ▸ List.mem_cons_self)⟩

end InternetDate

namespace Scan

/-- A scan takes a value off the front of a text and leaves the rest. -/
def Takes {α : Type} (scan : Scan α) (text : List Char) (value : α) (rest : List Char) : Prop :=
  StateT.run scan text = some (value, rest)

variable {α β : Type} {text rest left : List Char}

theorem Takes.bind {scan : Scan α} {next : α → Scan β} {first : α} {last : β}
    (taken : scan.Takes text first rest) (continued : (next first).Takes rest last left) :
    (scan >>= next).Takes text last left := by
  rw [Takes, StateT.run_bind, taken]
  exact continued

theorem takes_pure (value : α) (text : List Char) : (pure value : Scan α).Takes text value text :=
  rfl

theorem Takes.whole {scan : Scan α} {value : α} (taken : scan.Takes text value []) :
    scan.whole text = some value := by
  rw [Scan.whole, taken]

theorem takes_exactly (expected : Char) (rest : List Char) :
    (exactly expected).Takes (expected :: rest) () rest :=
  if_pos rfl

theorem takes_peek (text : List Char) : peek.Takes text text.head? text :=
  rfl

theorem takes_digits (digit : ∀ character ∈ text, character.isDigit = true)
    (boundary : ∀ character ∈ rest.head?, character.isDigit = false) :
    digits.Takes (text ++ rest) text rest := by
  change some (_, _) = _
  rw [List.takeWhile_append_of_pos digit, List.dropWhile_append_of_pos digit]
  cases rest with
  | nil => simp
  | cons next rest => simp [boundary next rfl]

theorem takes_number {least most : Nat} (digit : ∀ character ∈ text, character.isDigit = true)
    (length : text.length = most) (enough : least ≤ most) :
    (number least most).Takes (text ++ rest) (value text) rest := by
  have taken : ((text ++ rest).take most).takeWhile Char.isDigit = text := by
    rw [← length, List.take_left, List.takeWhile_eq_self_iff]
    exact digit
  have long : ¬ text.length < least := by omega
  change (if _ then none else some _) = _
  simp only [taken, if_neg long, List.drop_left]

theorem takes_number_padded {least most number : Nat} (positive : 0 < most) (enough : least ≤ most)
    (fits : number < 10 ^ most) :
    (Scan.number least most).Takes (InternetDate.padded most number ++ rest) number rest := by
  have taken : (Scan.number least most).Takes (InternetDate.padded most number ++ rest)
      (value (InternetDate.padded most number)) rest :=
    takes_number (fun _ => InternetDate.isDigit_of_mem_padded)
      (InternetDate.length_padded positive fits) enough
  rwa [InternetDate.value_padded] at taken

/-- A fraction is read back with the places it was printed with. -/
theorem takes_fraction_padded {width number : Nat} (positive : 0 < width) (short : width ≤ 9)
    (fits : number < 10 ^ width)
    (boundary : ∀ character ∈ rest.head?, character.isDigit = false) :
    fraction.Takes (InternetDate.padded width number ++ rest)
      (number * 10 ^ (9 - width)) rest := by
  have length := InternetDate.length_padded positive fits
  have filled : (InternetDate.padded width number).isEmpty = false := by
    cases printed : InternetDate.padded width number with
    | nil => simp [printed] at length; omega
    | cons digit others => rfl
  have counted : (InternetDate.padded width number).take 9 = InternetDate.padded width number :=
    List.take_of_length_le (by omega)
  refine (takes_digits (fun _ => InternetDate.isDigit_of_mem_padded) boundary).bind ?_
  simp only [filled, counted, length, InternetDate.value_padded]
  exact takes_pure _ _

end Scan

end Curator
