import Curator.Proofs.Feed.Mention
import Curator.Proofs.Number.Precision
import Mathlib.Algebra.Order.Group.MinMax

/-! How exact the bytes of a mentioned size are. A numeral has two places at most and its product
with a unit is rounded once, so that the bytes are those nearest to the product wherever double
precision tells quarters of a byte apart. -/
namespace Curator.ReportedSize

open Binary64

variable {text : List Char}

def SizeUnit.power : SizeUnit → Int
  | .mebibyte => 20
  | .gibibyte => 30

theorem SizeUnit.bytes_eq_twoTo (unit : SizeUnit) : (unit.bytes : Rat) = twoTo unit.power := by
  cases unit <;> rfl

theorem SizeUnit.power_bounds (unit : SizeUnit) : 0 ≤ unit.power ∧ unit.power < 64 := by
  cases unit <;> decide

theorem greatest_lt : (greatest : Rat) < twoTo 64 := by
  decide +kernel

theorem Numeral.value_nonneg (numeral : Numeral) : 0 ≤ numeral.value := by
  obtain ⟨count, same⟩ := numeral.exists_hundredths
  rw [same]
  positivity

theorem Numeral.value_eq_zero_or_normal (numeral : Numeral) :
    numeral.value = 0 ∨ twoTo (-1022) ≤ numeral.value := by
  obtain ⟨count, same⟩ := numeral.exists_hundredths
  rcases Nat.eq_zero_or_pos count with rfl | positive
  · exact .inl (by rw [same]; norm_num)
  · right
    have one : (1 : Rat) ≤ count := mod_cast positive
    calc twoTo (-1022) ≤ twoTo (-7) := twoTo_le_twoTo_iff.mpr (by decide)
      _ = 1 / 128 := rfl
      _ ≤ count / 100 := by linarith
      _ = numeral.value := same.symm

theorem Numeral.nearest_value_nonneg (numeral : Numeral) : 0 ≤ nearest numeral.value :=
  nearest_nonneg numeral.value_nonneg

theorem Numeral.abs_nearest_sub_le (numeral : Numeral) :
    |nearest numeral.value - numeral.value| ≤ numeral.value / 2 ^ 53 := by
  rcases numeral.value_eq_zero_or_normal with zero | normal
  · rw [zero, nearest_zero]
    norm_num
  · have bound := Binary64.abs_nearest_sub_le (by rwa [abs_of_nonneg numeral.value_nonneg])
    rw [abs_of_nonneg numeral.value_nonneg] at bound
    calc _ ≤ twoTo (-53) * numeral.value := bound
      _ = numeral.value / 2 ^ 53 := by
        rw [twoTo_eq_zpow, zpow_neg]
        norm_num
        ring

/-- The bytes of an accepted numeral: its value is rounded to double precision, and its product with
the unit to an integer. -/
theorem bytes_written (numeral : Numeral) (unit : SizeUnit) :
    (Mention.mk numeral.written unit).bytes =
      min greatest (roundHalfAway (nearest numeral.value * unit.bytes)).toNat := by
  simp only [Mention.bytes, numeral.read?_written]
  rcases numeral.value_eq_zero_or_normal with zero | normal
  · rw [zero, nearest_zero, zero_mul]
    cases unit <;> decide +kernel
  · have ⟨up, small⟩ := unit.power_bounds
    have factor : ofInteger unit.bytes = ofRational (twoTo unit.power) := by
      rw [ofInteger, ← unit.bytes_eq_twoTo]
      rfl
    have inRange : (greatest : Rat) ≤ twoTo 1024 :=
      greatest_lt.le.trans (twoTo_le_twoTo_iff.mpr (by decide))
    rw [factor, roundSaturating_multiply inRange normal up (by omega), unit.bytes_eq_twoTo]

/-- The exact size in bytes, which need not be whole. -/
def Numeral.exactBytes (numeral : Numeral) (unit : SizeUnit) : Rat :=
  numeral.value * unit.bytes

variable (numeral : Numeral) (unit : SizeUnit)

theorem Numeral.exactBytes_nonneg : 0 ≤ numeral.exactBytes unit :=
  mul_nonneg numeral.value_nonneg (Nat.cast_nonneg _)

/-- Units are so many times four that a hundredth of one is so many twenty-fifths of a byte. -/
theorem Numeral.exists_twentyFifths : ∃ count : Nat, numeral.exactBytes unit = count / 25 := by
  obtain ⟨count, same⟩ := numeral.exists_hundredths
  rw [exactBytes, same]
  cases unit with
  | mebibyte => exact ⟨count * 262144, by simp only [SizeUnit.bytes]; push_cast; ring⟩
  | gibibyte => exact ⟨count * 268435456, by simp only [SizeUnit.bytes]; push_cast; ring⟩

/-- The bytes before they are moved into the range. -/
def roundedBytes : Nat :=
  (roundHalfAway (nearest numeral.value * unit.bytes)).toNat

theorem abs_roundedBytes_sub_le :
    |(roundedBytes numeral unit : Rat) - numeral.exactBytes unit| ≤
      1 / 2 + numeral.exactBytes unit / 2 ^ 53 := by
  have positive : (0 : Rat) ≤ unit.bytes := Nat.cast_nonneg _
  have scaledNonneg := mul_nonneg numeral.nearest_value_nonneg positive
  have whole : (roundedBytes numeral unit : Rat) =
      roundHalfAway (nearest numeral.value * unit.bytes) := by
    have nonneg : 0 ≤ roundHalfAway (nearest numeral.value * unit.bytes) := by
      rw [roundHalfAway_of_nonneg scaledNonneg]
      exact Int.floor_nonneg.mpr (by linarith)
    exact_mod_cast congrArg (Int.cast : Int → Rat) (Int.toNat_of_nonneg nonneg)
  have rounded := abs_roundHalfAway_sub_le scaledNonneg
  have scaled : |nearest numeral.value * unit.bytes - numeral.exactBytes unit| ≤
      numeral.exactBytes unit / 2 ^ 53 := by
    rw [Numeral.exactBytes, ← sub_mul, abs_mul, abs_of_nonneg positive, mul_div_right_comm]
    exact mul_le_mul_of_nonneg_right numeral.abs_nearest_sub_le positive
  rw [whole]
  exact (abs_sub_le _ (nearest numeral.value * unit.bytes) _).trans (add_le_add rounded scaled)

theorem abs_bytes_sub_le :
    |((Mention.mk numeral.written unit).bytes : Rat) - min (numeral.exactBytes unit) greatest| ≤
      1 / 2 + numeral.exactBytes unit / 2 ^ 53 := by
  rw [bytes_written, ← roundedBytes, Nat.cast_min, min_comm (numeral.exactBytes unit)]
  refine (abs_min_sub_min_le_max _ _ _ _).trans ?_
  rw [sub_self, abs_zero, max_eq_right (abs_nonneg _)]
  exact abs_roundedBytes_sub_le numeral unit

variable {numeral unit}

theorem bytes_of_beyond (beyond : 2 ^ 64 ≤ numeral.exactBytes unit) :
    (Mention.mk numeral.written unit).bytes = greatest := by
  have ⟨_, small⟩ := unit.power_bounds
  have split : (2 : Rat) ^ 64 = twoTo (64 - unit.power) * twoTo unit.power := by
    rw [← twoTo_add, sub_add_cancel]
    rfl
  have valueLarge : twoTo (64 - unit.power) ≤ numeral.value := by
    rw [Numeral.exactBytes, unit.bytes_eq_twoTo, split] at beyond
    exact le_of_mul_le_mul_right beyond (twoTo_pos _)
  have nearestLarge : twoTo (64 - unit.power) ≤ nearest numeral.value := by
    rw [← nearest_twoTo (by omega : -1074 ≤ 64 - unit.power)]
    exact nearest_mono valueLarge
  rw [bytes_written]
  refine min_eq_left (le_roundHalfAway ?_)
  calc (greatest : Rat) ≤ 2 ^ 64 := greatest_lt.le
    _ ≤ nearest numeral.value * unit.bytes := by
      rw [split, unit.bytes_eq_twoTo]
      exact mul_le_mul_of_nonneg_right nearestLarge (twoTo_pos _).le

/-- A whole number and twenty-fifths that are less than thirteen of these apart are less than a half
apart. -/
theorem abs_sub_lt_half {size count : Nat} (near : |(size : Rat) - count / 25| < 13 / 25) :
    |(size : Rat) - count / 25| < 1 / 2 := by
  have apart : |25 * (size : Int) - count| < 13 := by
    have scaled : |25 * (size : Rat) - count| < 13 := by
      rw [abs_lt] at near ⊢
      constructor <;> linarith
    exact_mod_cast scaled
  have whole : |25 * (size : Int) - count| ≤ 12 := Int.lt_add_one_iff.mp apart
  have twelve : |25 * (size : Rat) - count| ≤ 12 := mod_cast whole
  rw [abs_le] at twelve
  rw [abs_lt]
  constructor <;> linarith

/-- Below two to the 47 bytes, double precision is finer than what keeps a size from the nearest
integer. -/
theorem abs_bytes_sub_lt (below : numeral.exactBytes unit < 2 ^ 47) :
    |((Mention.mk numeral.written unit).bytes : Rat) - numeral.exactBytes unit| < 1 / 2 := by
  obtain ⟨count, same⟩ := numeral.exists_twentyFifths unit
  have near : |(roundedBytes numeral unit : Rat) - numeral.exactBytes unit| < 13 / 25 :=
    (abs_roundedBytes_sub_le numeral unit).trans_lt (by linarith)
  have inRange : roundedBytes numeral unit ≤ greatest := by
    have small : (roundedBytes numeral unit : Rat) ≤ (2 ^ 48 : Nat) := by
      have high := (abs_lt.mp near).2
      push_cast
      linarith
    exact (Nat.cast_le.mp small).trans (by decide)
  rw [same] at near
  rw [bytes_written, ← roundedBytes, min_eq_right inRange, same]
  exact abs_sub_lt_half near

/-- A size is an exact one, no more than the greatest, up to one byte and what double precision
loses. -/
def IsNear (size : Nat) (exact : Rat) : Prop :=
  |(size : Rat) - min exact greatest| ≤ 1 + min exact greatest / 2 ^ 52

theorem isNear_bytes (numeral : Numeral) (unit : SizeUnit) :
    IsNear (Mention.mk numeral.written unit).bytes (numeral.exactBytes unit) := by
  have nonneg := numeral.exactBytes_nonneg unit
  have greatestValue : (greatest : Rat) = 2 ^ 64 - 1 := by
    norm_num [greatest]
  unfold IsNear
  rcases lt_or_ge (numeral.exactBytes unit) (2 ^ 64) with below | beyond
  · have near := abs_bytes_sub_le numeral unit
    rcases le_total (numeral.exactBytes unit) greatest with within | past
    · rw [min_eq_left within] at near ⊢
      linarith
    · rw [min_eq_right past] at near ⊢
      rw [greatestValue] at near ⊢
      linarith
  · have past : (greatest : Rat) ≤ numeral.exactBytes unit := greatest_lt.le.trans beyond
    rw [bytes_of_beyond beyond, min_eq_right past, sub_self, abs_zero]
    positivity

theorem toNat_read {numeral : Numeral} {unit : SizeUnit} {before : List Char}
    (noDigit : ∀ character ∈ before, Text.isDecimalDigit character = false)
    (found : first? text = some ⟨numeral.written, unit⟩) :
    (read (before ++ text)).toNat = (Mention.mk numeral.written unit).bytes := by
  have inRange : (Mention.mk numeral.written unit).bytes ≤ greatest := by
    rw [bytes_written]
    exact min_le_left _ _
  rw [read, first?_append noDigit, found]
  exact Nat.mod_eq_of_lt (Nat.lt_succ_of_le inRange)

/-- An accepted numeral behind any text without digits is read as the nearest number of bytes below
two to the 47, and as the greatest size from two to the 64 on. -/
theorem reads_accepted_numeral {before : List Char}
    (noDigit : ∀ character ∈ before, Text.isDecimalDigit character = false) (numeral : Numeral)
    (behind : UnitText) :
    (numeral.exactBytes behind.unit < 2 ^ 47 →
      |((read (before ++ (numeral.written ++ behind.written))).toNat : Rat) -
        numeral.exactBytes behind.unit| < 1 / 2) ∧
    (2 ^ 64 ≤ numeral.exactBytes behind.unit →
      read (before ++ (numeral.written ++ behind.written)) = 18446744073709551615) := by
  have bytes := toNat_read noDigit (first?_written numeral behind)
  constructor
  · intro below
    rw [bytes]
    exact abs_bytes_sub_lt below
  · intro beyond
    rw [bytes_of_beyond beyond] at bytes
    exact UInt64.toNat_inj.mp bytes

theorem reads_accepted_numeral_in_description :
    |((read "Size: 1,024.50 mIb.".toList).toNat : Rat) - 10245 / 10 * 1048576| < 1 / 2 ∧
      read "Size: 17179869184GiB".toList = 18446744073709551615 := by
  have noDigit : ∀ character ∈ "Size: ".toList, Text.isDecimalDigit character = false :=
    fun character member =>
      Bool.eq_false_iff.mpr (List.any_eq_false.mp (by decide) character member)
  constructor
  · let numeral : Numeral :=
      .grouped ⟨"1".toList, by decide, List.all_eq_true.mp (by decide)⟩
        ⟨"024".toList, by decide, List.all_eq_true.mp (by decide)⟩
        ⟨"50".toList, by decide, List.all_eq_true.mp (by decide)⟩ (by decide)
    let behind : UnitText :=
      { separator := some ' ', letters := "mIb".toList, unit := .mebibyte, after := ['.']
        isApart := by
          rintro _ ⟨⟩
          decide +kernel
        isSpelled := by decide +kernel }
    have exact : numeral.exactBytes behind.unit = 10245 / 10 * 1048576 := by decide +kernel
    have near := (reads_accepted_numeral noDigit numeral behind).1 (by rw [exact]; norm_num)
    rwa [exact] at near
  · let numeral : Numeral :=
      .plain ⟨"17179869184".toList, by decide, List.all_eq_true.mp (by decide)⟩
    let behind : UnitText :=
      { separator := none, letters := "GiB".toList, unit := .gibibyte, after := []
        isApart := by rintro _ ⟨⟩
        isSpelled := by decide +kernel }
    exact (reads_accepted_numeral noDigit numeral behind).2 (by decide +kernel)

/-- Of joined runs of digits, the longest numeral that they end in is read, also where they go on in
front of it. -/
theorem reads_longest_tail {before joined : List Char}
    (noDigit : ∀ character ∈ before, Text.isDecimalDigit character = false)
    (isJoined : IsJoined joined) (behind : UnitText) :
    ∃ tail : Numeral, tail.IsLongestTail joined ∧
      IsNear (read (before ++ (joined ++ behind.written))).toNat (tail.exactBytes behind.unit) := by
  obtain ⟨tail, longest, found⟩ := isJoined.mentionsTail behind
  refine ⟨tail, longest, ?_⟩
  rw [toNat_read noDigit found]
  exact isNear_bytes tail behind.unit

theorem reads_longest_tail_of_thousands :
    ∃ tail : Numeral, tail.IsLongestTail "1,024".toList ∧
      IsNear (read "1,024 MB".toList).toNat (tail.exactBytes .mebibyte) :=
  @reads_longest_tail [] "1,024".toList (List.forall_mem_nil _)
    (.mark rfl (.inl rfl) (.more rfl (.more rfl (.digit rfl))))
    { separator := some ' ', letters := "MB".toList, unit := .mebibyte, after := []
      isApart := by
        rintro _ ⟨⟩
        decide +kernel
      isSpelled := by decide +kernel }

/-- Of a numeral with three decimals only these are read, and 1.375 of a unit become 375 of it. -/
theorem reads_part_of_numeral :
    IsJoined "1.375".toList ∧ (read "1.375 GB".toList).toNat ≠ 0 ∧
      ¬ IsNear (read "1.375 GB".toList).toNat (1375 / 1000 * SizeUnit.gibibyte.bytes) := by
  have size : (read "1.375 GB".toList).toNat = 375 * SizeUnit.gibibyte.bytes := by decide +kernel
  refine ⟨.mark rfl (.inr rfl) (.more rfl (.more rfl (.digit rfl))), ?_, ?_⟩
  · rw [size]
    decide
  · rw [size, IsNear]
    norm_num [SizeUnit.bytes, greatest]

end Curator.ReportedSize
