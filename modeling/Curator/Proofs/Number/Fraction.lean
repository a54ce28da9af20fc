import Curator.Proofs.Number.Operations
import Curator.Proofs.Number.Precision

/-! Quotients of whole numbers. A whole number below two to the 53 is a double, so that a quotient
of two such numbers is rounded once. Fractions up to 1 that differ, and whose denominators are
small, are farther apart than rounding can move them: as doubles they compare as they do exactly. -/
namespace Curator.Binary64

variable {value left right : Rat}

theorem grid_nonpos_of_lt (small : |value| < twoTo 53) (nonzero : value ≠ 0) : grid value ≤ 0 := by
  have below := twoTo_lt_twoTo_iff.mp ((twoTo_binaryOrder_le nonzero).trans_lt small)
  unfold grid
  omega

theorem nearest_intCast {count : Int} (small : |count| < 2 ^ 53) :
    nearest (count : Rat) = count := by
  rcases eq_or_ne count 0 with rfl | nonzero
  · exact nearest_zero
  have nonzeroValue : (count : Rat) ≠ 0 := Int.cast_ne_zero.mpr nonzero
  have smallValue : |(count : Rat)| < twoTo 53 := by
    rw [← Int.cast_abs]
    calc ((|count| : Int) : Rat) < ((2 ^ 53 : Int) : Rat) := Int.cast_lt.mpr small
      _ = twoTo 53 := (twoTo_natCast 53).symm
  -- Ones are multiples of what the doubles around the number are multiples of.
  obtain ⟨places, finer⟩ :=
    Int.eq_ofNat_of_zero_le (neg_nonneg.mpr (grid_nonpos_of_lt smallValue nonzeroValue))
  refine nearest_eq_self_of_multiple (count * 2 ^ places) nonzeroValue ?_
  have unit : ((2 ^ places : Int) : Rat) * twoTo (grid (count : Rat)) = twoTo 0 := by
    rw [← twoTo_natCast, ← twoTo_add]
    congr 1
    omega
  have one : twoTo 0 = 1 := rfl
  rw [Int.cast_mul, mul_assoc, unit, one, mul_one]

theorem nearest_natCast {count : Nat} (small : count < 2 ^ 53) :
    nearest (count : Rat) = count := by
  have kept := @nearest_intCast count (by rw [Nat.abs_cast]; exact_mod_cast small)
  exact_mod_cast kept

theorem nearest_one : nearest 1 = 1 := by
  simpa using @nearest_natCast 1 (by norm_num)

theorem abs_nearest_le_twoTo {power : Int} (fine : -1074 ≤ power) (small : |value| ≤ twoTo power) :
    |nearest value| ≤ twoTo power := by
  obtain ⟨low, high⟩ := abs_le.mp small
  have stays := nearest_twoTo fine
  refine abs_le.mpr ⟨?_, ?_⟩
  · rw [← stays, ← nearest_neg]
    exact nearest_mono low
  · rw [← stays]
    exact nearest_mono high

theorem toRational?_ofInteger {count : Int} (small : |(count : Rat)| ≤ twoTo 1023) :
    (ofInteger count).toRational? = some (nearest count) := by
  refine toRational?_ofRational ((abs_nearest_le_twoTo (by omega) small).trans_lt ?_)
  exact twoTo_lt_twoTo_iff.mpr (by omega)

/-- A number below two to the 53 is exactly the double that it is converted to. -/
theorem toRational?_ofInteger_natCast {count : Nat} (small : count < 2 ^ 53) :
    (ofInteger count).toRational? = some (count : Rat) := by
  have smallValue : |((count : Int) : Rat)| ≤ twoTo 1023 := by
    rw [Int.cast_natCast, Nat.abs_cast]
    calc (count : Rat) ≤ ((2 ^ 53 : Nat) : Rat) := Nat.cast_le.mpr small.le
      _ = twoTo 53 := by simp only [twoTo_eq_zpow]; norm_num
      _ ≤ twoTo 1023 := twoTo_le_twoTo_iff.mpr (by omega)
  rw [toRational?_ofInteger smallValue, Int.cast_natCast, nearest_natCast small]

theorem abs_nearest_le_one (small : |value| ≤ 1) : |nearest value| ≤ 1 := by
  have one : twoTo 0 = 1 := rfl
  rw [← one] at small ⊢
  exact abs_nearest_le_twoTo (by omega) small

theorem abs_div_le_one {part whole : Nat} (within : part ≤ whole) :
    |(part : Rat) / whole| ≤ 1 := by
  rw [abs_of_nonneg (by positivity)]
  exact div_le_one_of_le₀ (Nat.cast_le.mpr within) (Nat.cast_nonneg whole)

theorem toRational?_divide_natCast {part whole : Nat} (within : part ≤ whole) (shown : 0 < whole)
    (small : whole < 2 ^ 53) :
    ((ofInteger part).divide (ofInteger whole)).toRational? =
      some (nearest ((part : Rat) / whole)) := by
  refine toRational?_divide (toRational?_ofInteger_natCast (within.trans_lt small))
    (toRational?_ofInteger_natCast small) (Nat.cast_ne_zero.mpr shown.ne') ?_
  calc |nearest ((part : Rat) / whole)| ≤ twoTo 0 := abs_nearest_le_one (abs_div_le_one within)
    _ < twoTo 1024 := twoTo_lt_twoTo_iff.mpr (by omega)

theorem abs_nearest_sub_le_of_le_one (small : |value| ≤ 1) :
    |nearest value - value| ≤ twoTo (-53) := by
  rcases eq_or_ne value 0 with rfl | nonzero
  · rw [nearest_zero, sub_zero, abs_zero]
    exact (twoTo_pos _).le
  have order : binaryOrder value ≤ 0 :=
    twoTo_le_twoTo_iff.mp ((twoTo_binaryOrder_le nonzero).trans small)
  have fine : grid value ≤ -53 + 1 := by
    unfold grid
    omega
  have two : twoTo 1 = 2 := rfl
  calc |nearest value - value| ≤ twoTo (grid value) / 2 := abs_nearest_sub_le_grid nonzero
    _ ≤ twoTo (-53 + 1) / 2 :=
      div_le_div_of_nonneg_right (twoTo_le_twoTo_iff.mpr fine) zero_le_two
    _ = twoTo (-53) := by rw [twoTo_add, two, mul_div_cancel_right₀ _ two_ne_zero]

/-- Rounding keeps rationals apart that are farther from each other than two to the -52. -/
theorem nearest_lt_nearest (leftSmall : |left| ≤ 1) (rightSmall : |right| ≤ 1)
    (apart : left + twoTo (-53) + twoTo (-53) < right) : nearest left < nearest right := by
  have leftNear := (abs_le.mp (abs_nearest_sub_le_of_le_one leftSmall)).2
  have rightNear := (abs_le.mp (abs_nearest_sub_le_of_le_one rightSmall)).1
  linarith

private theorem twoTo_add_lt_one_div {whole : Nat} (shown : 0 < whole) (small : whole < 2 ^ 52) :
    twoTo (-53) + twoTo (-53) < 1 / (whole : Rat) := by
  have positive : (0 : Rat) < whole := Nat.cast_pos.mpr shown
  have sum : twoTo (-53) + twoTo (-53) = 1 / ((2 ^ 52 : Nat) : Rat) := by
    simp only [twoTo_eq_zpow]
    norm_num
  rw [sum]
  exact one_div_lt_one_div_of_lt positive (Nat.cast_lt.mpr small)

theorem nearest_div_lt_nearest_div {part other whole : Nat} (below : part < other)
    (within : other ≤ whole) (small : whole < 2 ^ 52) :
    nearest ((part : Rat) / whole) < nearest ((other : Rat) / whole) := by
  have gap : (part : Rat) / whole + 1 / whole ≤ other / whole := by
    rw [← add_div]
    exact div_le_div_of_nonneg_right (by exact_mod_cast below) (Nat.cast_nonneg whole)
  have wide := twoTo_add_lt_one_div (Nat.zero_lt_of_lt (below.trans_le within)) small
  exact nearest_lt_nearest (abs_div_le_one (below.le.trans within)) (abs_div_le_one within)
    (by linarith)

/-- Fractions with small denominators compare as doubles as they do exactly. -/
theorem nearest_div_le_nearest_div_iff {part whole otherPart otherWhole : Nat}
    (within : part ≤ whole) (shown : 0 < whole) (otherShown : 0 < otherWhole)
    (small : whole * otherWhole < 2 ^ 52) :
    nearest ((part : Rat) / whole) ≤ nearest ((otherPart : Rat) / otherWhole) ↔
      part * otherWhole ≤ otherPart * whole := by
  have common : (part : Rat) / whole =
      ((part * otherWhole : Nat) : Rat) / ((whole * otherWhole : Nat) : Rat) := by
    rw [Nat.cast_mul, Nat.cast_mul, mul_div_mul_right _ _ (Nat.cast_ne_zero.mpr otherShown.ne')]
  have otherCommon : (otherPart : Rat) / otherWhole =
      ((otherPart * whole : Nat) : Rat) / ((whole * otherWhole : Nat) : Rat) := by
    rw [Nat.mul_comm whole, Nat.cast_mul, Nat.cast_mul,
      mul_div_mul_right _ _ (Nat.cast_ne_zero.mpr shown.ne')]
  rw [common, otherCommon]
  constructor
  · intro ordered
    by_contra beyond
    exact ordered.not_gt (nearest_div_lt_nearest_div (not_le.mp beyond)
      (Nat.mul_le_mul_right otherWhole within) small)
  · intro ordered
    exact nearest_mono (div_le_div_of_nonneg_right (Nat.cast_le.mpr ordered) (Nat.cast_nonneg _))

end Curator.Binary64
