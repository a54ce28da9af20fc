import Curator.Number.Binary64
import Mathlib.Algebra.Order.Field.Power
import Mathlib.Data.Rat.Floor
import Mathlib.Tactic.FieldSimp
import Mathlib.Tactic.Linarith
import Mathlib.Tactic.NormNum

/-! Rounding to double precision keeps the order of rationals and their signs. Within one power of
two the doubles are a grid; the powers of two are doubles themselves, so that no rational is rounded
past one. What this says about differences of doubles and about their order follows. -/
namespace Curator.Binary64

theorem twoTo_eq_zpow (power : Int) : twoTo power = (2 : ℚ) ^ power := by
  unfold twoTo
  split
  · rename_i nonneg
    obtain ⟨count, rfl⟩ := Int.eq_ofNat_of_zero_le nonneg
    simp
  · rename_i negative
    obtain ⟨count, known⟩ := Int.eq_ofNat_of_zero_le (show 0 ≤ -power by omega)
    have same : power = -(count : Int) := by omega
    subst same
    simp

theorem twoTo_pos (power : Int) : 0 < twoTo power := by
  rw [twoTo_eq_zpow]
  positivity

theorem twoTo_add (left right : Int) : twoTo (left + right) = twoTo left * twoTo right := by
  simp only [twoTo_eq_zpow]
  exact zpow_add₀ two_ne_zero left right

theorem twoTo_le_twoTo_iff {left right : Int} : twoTo left ≤ twoTo right ↔ left ≤ right := by
  simp only [twoTo_eq_zpow]
  exact zpow_le_zpow_iff_right₀ one_lt_two

theorem twoTo_lt_twoTo_iff {left right : Int} : twoTo left < twoTo right ↔ left < right := by
  simp only [twoTo_eq_zpow]
  exact zpow_lt_zpow_iff_right₀ one_lt_two

theorem twoTo_natCast (count : Nat) : twoTo count = ((2 ^ count : Int) : ℚ) := by
  rw [twoTo_eq_zpow]
  push_cast
  exact zpow_natCast 2 count

theorem magnitude_eq_abs (value : Rat) : magnitude value = |value| := by
  unfold magnitude
  split
  · rename_i negative
    exact (abs_of_neg negative).symm
  · rename_i nonneg
    exact (abs_of_nonneg (not_lt.mp nonneg)).symm

private theorem abs_eq_div (value : Rat) : |value| = (value.num.natAbs : ℚ) / value.den := by
  rw [Nat.cast_natAbs, Int.cast_abs, ← abs_of_nonneg (Nat.cast_nonneg (α := ℚ) value.den),
    ← abs_div, Rat.num_div_den]

private theorem log2_bounds {count : Nat} (nonzero : count ≠ 0) :
    twoTo count.log2 ≤ count ∧ (count : ℚ) < twoTo (count.log2 + 1 : Nat) := by
  rw [twoTo_natCast, twoTo_natCast]
  exact ⟨mod_cast Nat.log2_self_le nonzero, mod_cast Nat.lt_log2_self⟩

/-- The lengths of numerator and denominator leave two powers of two to choose from. -/
private theorem estimate_bounds {value : Rat} (nonzero : value ≠ 0) :
    twoTo ((value.num.natAbs.log2 : Int) - value.den.log2 - 1) ≤ |value| ∧
      |value| < twoTo ((value.num.natAbs.log2 : Int) - value.den.log2 + 1) := by
  have positive : (0 : ℚ) < value.den := mod_cast value.den_pos
  obtain ⟨numLow, numHigh⟩ := log2_bounds (show value.num.natAbs ≠ 0 by simpa using nonzero)
  obtain ⟨denLow, denHigh⟩ := log2_bounds value.den_nz
  set n := value.num.natAbs.log2
  set d := value.den.log2
  rw [abs_eq_div]
  constructor
  · rw [le_div_iff₀ positive]
    calc twoTo ((n : Int) - d - 1) * value.den
        ≤ twoTo ((n : Int) - d - 1) * twoTo (d + 1 : Nat) :=
          mul_le_mul_of_nonneg_left denHigh.le (twoTo_pos _).le
      _ = twoTo n := by
          rw [← twoTo_add]
          congr 1
          omega
      _ ≤ value.num.natAbs := numLow
  · rw [div_lt_iff₀ positive]
    calc (value.num.natAbs : ℚ) < twoTo (n + 1 : Nat) := numHigh
      _ = twoTo ((n : Int) - d + 1) * twoTo d := by
          rw [← twoTo_add]
          congr 1
          omega
      _ ≤ twoTo ((n : Int) - d + 1) * value.den :=
          mul_le_mul_of_nonneg_left denLow (twoTo_pos _).le

theorem twoTo_binaryOrder_le {value : Rat} (nonzero : value ≠ 0) :
    twoTo (binaryOrder value) ≤ |value| := by
  unfold binaryOrder
  dsimp only
  split
  · rename_i reached
    rwa [magnitude_eq_abs] at reached
  · exact (estimate_bounds nonzero).1

theorem lt_twoTo_binaryOrder {value : Rat} (nonzero : value ≠ 0) :
    |value| < twoTo (binaryOrder value + 1) := by
  unfold binaryOrder
  dsimp only
  split
  · exact (estimate_bounds nonzero).2
  · rename_i missed
    rw [magnitude_eq_abs, not_le] at missed
    rwa [Int.sub_add_cancel]

theorem binaryOrder_neg (value : Rat) : binaryOrder (-value) = binaryOrder value := by
  simp [binaryOrder, magnitude_eq_abs]

theorem binaryOrder_le_binaryOrder {left right : Rat} (positive : 0 < left)
    (atMost : left ≤ right) : binaryOrder left ≤ binaryOrder right := by
  have low := twoTo_binaryOrder_le positive.ne'
  have high := lt_twoTo_binaryOrder (positive.trans_le atMost).ne'
  rw [abs_of_pos positive] at low
  rw [abs_of_pos (positive.trans_le atMost)] at high
  have below := twoTo_lt_twoTo_iff.mp ((low.trans atMost).trans_lt high)
  omega

theorem nearestEven_intCast (value : Int) : nearestEven value = value := by
  simp [nearestEven]

theorem floor_le_nearestEven (value : Rat) : ⌊value⌋ ≤ nearestEven value := by
  change value.floor ≤ _
  unfold nearestEven
  dsimp only
  split_ifs <;> omega

theorem nearestEven_le_floor_add_one (value : Rat) : nearestEven value ≤ ⌊value⌋ + 1 := by
  change _ ≤ value.floor + 1
  unfold nearestEven
  dsimp only
  split_ifs <;> omega

theorem nearestEven_mono {left right : Rat} (atMost : left ≤ right) :
    nearestEven left ≤ nearestEven right := by
  rcases (Int.floor_le_floor atMost).lt_or_eq with below | same
  · have high := nearestEven_le_floor_add_one left
    have low := floor_le_nearestEven right
    omega
  · -- Between the same integers, the one that is farther along is rounded up first.
    change left.floor = right.floor at same
    unfold nearestEven
    dsimp only
    rw [same]
    split_ifs <;> first | omega | linarith

theorem nearestEven_neg (value : Rat) : nearestEven (-value) = -nearestEven value := by
  by_cases whole : (⌊value⌋ : ℚ) = value
  · rw [← whole, ← Int.cast_neg, nearestEven_intCast, nearestEven_intCast]
  · have low : (⌊value⌋ : ℚ) < value := lt_of_le_of_ne (Int.floor_le value) whole
    have high := Int.lt_floor_add_one value
    have mirrored : ⌊-value⌋ = -⌊value⌋ - 1 := by
      rw [Int.floor_eq_iff]
      push_cast
      constructor <;> linarith
    change (-value).floor = -value.floor - 1 at mirrored
    change (value.floor : ℚ) < value at low
    change value < (value.floor : ℚ) + 1 at high
    unfold nearestEven
    dsimp only
    rw [mirrored]
    push_cast
    split_ifs <;> first | omega | (exfalso; linarith)

/-- The power of two that the doubles around a rational are multiples of. -/
def grid (value : Rat) : Int :=
  max (binaryOrder value - 52) (-1074)

theorem nearest_of_ne_zero {value : Rat} (nonzero : value ≠ 0) :
    nearest value = nearestEven (value / twoTo (grid value)) * twoTo (grid value) := by
  rw [nearest, if_neg nonzero]
  rfl

theorem nearest_zero : nearest 0 = 0 := rfl

theorem nearest_neg (value : Rat) : nearest (-value) = -nearest value := by
  by_cases zero : value = 0
  · rw [zero, neg_zero, nearest_zero, neg_zero]
  · rw [nearest_of_ne_zero zero, nearest_of_ne_zero (neg_ne_zero.mpr zero), grid, binaryOrder_neg,
      ← grid, neg_div, nearestEven_neg]
    push_cast
    ring

/-- A power of two on the grid stays where it is, and nothing around it is rounded past it. -/
theorem nearestEven_twoTo {power lower : Int} (onGrid : lower ≤ power) :
    (nearestEven (twoTo power / twoTo lower) : ℚ) * twoTo lower = twoTo power := by
  obtain ⟨count, apart⟩ := Int.eq_ofNat_of_zero_le (sub_nonneg.mpr onGrid)
  have quotient : twoTo power / twoTo lower = ((2 ^ count : Int) : ℚ) := by
    rw [div_eq_iff (twoTo_pos lower).ne', ← twoTo_natCast, ← twoTo_add]
    congr 1
    omega
  rw [quotient, nearestEven_intCast, ← twoTo_natCast, ← twoTo_add]
  congr 1
  omega

theorem nearest_le_twoTo {value : Rat} (positive : 0 < value) {power : Int}
    (atMost : value ≤ twoTo power) (onGrid : grid value ≤ power) :
    nearest value ≤ twoTo power := by
  rw [nearest_of_ne_zero positive.ne', ← nearestEven_twoTo onGrid]
  apply mul_le_mul_of_nonneg_right _ (twoTo_pos _).le
  exact_mod_cast nearestEven_mono (div_le_div_of_nonneg_right atMost (twoTo_pos _).le)

theorem twoTo_le_nearest {value : Rat} {power : Int} (atLeast : twoTo power ≤ value)
    (onGrid : grid value ≤ power) : twoTo power ≤ nearest value := by
  rw [nearest_of_ne_zero ((twoTo_pos power).trans_le atLeast).ne', ← nearestEven_twoTo onGrid]
  apply mul_le_mul_of_nonneg_right _ (twoTo_pos _).le
  exact_mod_cast nearestEven_mono (div_le_div_of_nonneg_right atLeast (twoTo_pos _).le)

private theorem nearest_mono_of_pos {left right : Rat} (positive : 0 < left)
    (atMost : left ≤ right) : nearest left ≤ nearest right := by
  have rightPositive := positive.trans_le atMost
  have orders := binaryOrder_le_binaryOrder positive atMost
  have grids : grid left ≤ grid right := by
    unfold grid
    omega
  rcases grids.lt_or_eq with finer | same
  · -- Where the grid gets coarser, a power of two lies between the two rationals.
    have coarse : grid right = binaryOrder right - 52 := by
      unfold grid at finer ⊢
      omega
    have below : binaryOrder left + 1 ≤ binaryOrder right := by
      unfold grid at finer
      omega
    have leftHigh := lt_twoTo_binaryOrder positive.ne'
    have rightLow := twoTo_binaryOrder_le rightPositive.ne'
    rw [abs_of_pos positive] at leftHigh
    rw [abs_of_pos rightPositive] at rightLow
    calc nearest left ≤ twoTo (binaryOrder right) :=
          nearest_le_twoTo positive (leftHigh.le.trans (twoTo_le_twoTo_iff.mpr below)) (by omega)
      _ ≤ nearest right := twoTo_le_nearest rightLow (by omega)
  · rw [nearest_of_ne_zero positive.ne', nearest_of_ne_zero rightPositive.ne', same]
    apply mul_le_mul_of_nonneg_right _ (twoTo_pos _).le
    exact_mod_cast nearestEven_mono (div_le_div_of_nonneg_right atMost (twoTo_pos _).le)

theorem nearest_nonneg {value : Rat} (nonneg : 0 ≤ value) : 0 ≤ nearest value := by
  rcases nonneg.eq_or_lt with rfl | positive
  · exact nearest_zero.ge
  · have zero : nearestEven 0 = 0 := nearestEven_intCast 0
    have atLeast := nearestEven_mono (div_nonneg nonneg (twoTo_pos (grid value)).le)
    rw [zero] at atLeast
    rw [nearest_of_ne_zero positive.ne']
    apply mul_nonneg _ (twoTo_pos _).le
    exact_mod_cast atLeast

theorem nearest_mono {left right : Rat} (atMost : left ≤ right) :
    nearest left ≤ nearest right := by
  rcases lt_or_ge 0 left with leftPositive | leftNonpos
  · exact nearest_mono_of_pos leftPositive atMost
  · rcases lt_or_ge right 0 with rightNegative | rightNonneg
    · have mirrored := nearest_mono_of_pos (neg_pos.mpr rightNegative) (neg_le_neg atMost)
      rwa [nearest_neg, nearest_neg, neg_le_neg_iff] at mirrored
    · have leftMirrored := nearest_nonneg (neg_nonneg.mpr leftNonpos)
      rw [nearest_neg] at leftMirrored
      exact (neg_nonneg.mp leftMirrored).trans (nearest_nonneg rightNonneg)

theorem toRational?_eq_some_iff {number : Binary64} {value : Rat} :
    number.toRational? = some value ↔
      number = finite value ∨ number = negativeZero ∧ value = 0 := by
  cases number <;> simp [toRational?, eq_comm]

theorem nan_or_infinite_or_rational (number : Binary64) :
    number = nan ∨ (∃ negative, number = infinite negative) ∨
      ∃ value, number.toRational? = some value := by
  cases number with
  | nan => exact .inl rfl
  | infinite negative => exact .inr (.inl ⟨negative, rfl⟩)
  | negativeZero => exact .inr (.inr ⟨0, rfl⟩)
  | finite value => exact .inr (.inr ⟨value, rfl⟩)

theorem toRational?_negate {number : Binary64} {value : Rat}
    (stands : number.toRational? = some value) : number.negate.toRational? = some (-value) := by
  rcases toRational?_eq_some_iff.mp stands with rfl | ⟨rfl, rfl⟩
  · by_cases zero : value = 0
    · subst zero
      rfl
    · rw [negate, if_neg zero]
      rfl
  · rfl

/-- Up to its sign, the sum of two numbers is that of the rationals they stand for, rounded. -/
theorem absolute_add {left right : Binary64} {leftValue rightValue : Rat}
    (leftStands : left.toRational? = some leftValue)
    (rightStands : right.toRational? = some rightValue) :
    (left.add right).absolute = (ofRational (leftValue + rightValue)).absolute := by
  rcases toRational?_eq_some_iff.mp leftStands with rfl | ⟨rfl, rfl⟩
  · rcases toRational?_eq_some_iff.mp rightStands with rfl | ⟨rfl, rfl⟩
    · rfl
    · rw [add_zero]
      rfl
  · rw [zero_add]
    rcases toRational?_eq_some_iff.mp rightStands with rfl | ⟨rfl, rfl⟩
    · rfl
    · rfl

theorem absolute_subtract {left right : Binary64} {leftValue rightValue : Rat}
    (leftStands : left.toRational? = some leftValue)
    (rightStands : right.toRational? = some rightValue) :
    (left.subtract right).absolute = (ofRational (leftValue - rightValue)).absolute := by
  rw [subtract, absolute_add leftStands (toRational?_negate rightStands), sub_eq_add_neg]

private theorem add_infinite {number : Binary64} {value : Rat}
    (stands : number.toRational? = some value) (negative : Bool) :
    (infinite negative).add number = infinite negative ∧
      number.add (infinite negative) = infinite negative := by
  rcases toRational?_eq_some_iff.mp stands with rfl | ⟨rfl, rfl⟩
  · exact ⟨rfl, rfl⟩
  · exact ⟨rfl, rfl⟩

theorem absolute_subtract_infinite {number : Binary64} {value : Rat}
    (stands : number.toRational? = some value) (negative : Bool) :
    ((infinite negative).subtract number).absolute = infinite false ∧
      (number.subtract (infinite negative)).absolute = infinite false := by
  constructor
  · rw [subtract, (add_infinite (toRational?_negate stands) negative).1, absolute]
  · rw [subtract, negate, (add_infinite stands _).2, absolute]

theorem subtract_nan (number : Binary64) :
    nan.subtract number = nan ∧ number.subtract nan = nan := by
  constructor
  · rfl
  · cases number <;> rfl

theorem absolute_ofRational_neg (value : Rat) :
    (ofRational (-value)).absolute = (ofRational value).absolute := by
  unfold ofRational
  dsimp only
  rw [nearest_neg, magnitude_eq_abs, magnitude_eq_abs, abs_neg]
  by_cases isZero : nearest value = 0
  · rw [if_pos (neg_eq_zero.mpr isZero), if_pos isZero]
    split <;> split <;> rfl
  · rw [if_neg (neg_ne_zero.mpr isZero), if_neg isZero]
    split
    · rfl
    · simp only [absolute, magnitude_eq_abs, abs_neg]

/-- Numbers are as far from each other one way as the other way round. -/
theorem absolute_subtract_comm (left right : Binary64) :
    (left.subtract right).absolute = (right.subtract left).absolute := by
  rcases left.nan_or_infinite_or_rational with rfl | ⟨negative, rfl⟩ | ⟨leftValue, leftStands⟩
  · rw [(subtract_nan right).1, (subtract_nan right).2]
  · rcases right.nan_or_infinite_or_rational with rfl | ⟨other, rfl⟩ | ⟨rightValue, rightStands⟩
    · rfl
    · cases negative <;> cases other <;> rfl
    · obtain ⟨ahead, behind⟩ := absolute_subtract_infinite rightStands negative
      rw [ahead, behind]
  · rcases right.nan_or_infinite_or_rational with rfl | ⟨negative, rfl⟩ | ⟨rightValue, rightStands⟩
    · rw [(subtract_nan left).1, (subtract_nan left).2]
    · obtain ⟨ahead, behind⟩ := absolute_subtract_infinite leftStands negative
      rw [ahead, behind]
    · rw [absolute_subtract leftStands rightStands, absolute_subtract rightStands leftStands,
        ← neg_sub, absolute_ofRational_neg]

/-- A rounded rational exceeds a bound within the range of doubles as a number, infinite ones among
them, if it does so as a rational. -/
theorem lessThan_absolute_ofRational_iff {bound : Rat} (nonneg : 0 ≤ bound)
    (inRange : bound < twoTo 1024) (value : Rat) :
    (finite bound).lessThan (ofRational value).absolute = true ↔ bound < |nearest value| := by
  unfold ofRational
  dsimp only
  rw [magnitude_eq_abs]
  by_cases isZero : nearest value = 0
  · have small : ¬ bound < 0 := nonneg.not_gt
    rw [if_pos isZero, isZero, abs_zero, iff_false_right small, Bool.not_eq_true]
    split <;> exact decide_eq_false small
  · rw [if_neg isZero]
    split
    · rename_i isLarge
      exact iff_of_true rfl (inRange.trans_le isLarge)
    · rw [absolute, magnitude_eq_abs]
      exact decide_eq_true_iff

private theorem compareRationals_swap (left right : Rat) :
    compareRationals left right = (compareRationals right left).swap := by
  unfold compareRationals
  rcases lt_trichotomy left right with below | rfl | above
  · rw [if_pos below, if_neg below.not_gt, if_pos below]
    rfl
  · rw [if_neg (lt_irrefl left), if_neg (lt_irrefl left)]
    rfl
  · rw [if_neg above.not_gt, if_pos above, if_pos above]
    rfl

theorem totalCompare_swap (left right : Binary64) :
    left.totalCompare right = (right.totalCompare left).swap := by
  cases left with
  | nan => cases right <;> rfl
  | infinite negative =>
    cases right with
    | infinite other => cases negative <;> cases other <;> rfl
    | _ => cases negative <;> rfl
  | negativeZero =>
    cases right with
    | infinite negative => cases negative <;> rfl
    | finite value => simp only [totalCompare]; split <;> rfl
    | _ => rfl
  | finite value =>
    cases right with
    | infinite negative => cases negative <;> rfl
    | negativeZero => simp only [totalCompare]; split <;> rfl
    | finite other => exact compareRationals_swap value other
    | nan => rfl

/-- Numbers that stand for different rationals are in the order of these. -/
theorem totalCompare_of_lt {left right : Binary64} {leftValue rightValue : Rat}
    (leftStands : left.toRational? = some leftValue)
    (rightStands : right.toRational? = some rightValue) (below : rightValue < leftValue) :
    left.totalCompare right = .gt := by
  rcases toRational?_eq_some_iff.mp leftStands with rfl | ⟨rfl, rfl⟩
  · rcases toRational?_eq_some_iff.mp rightStands with rfl | ⟨rfl, rfl⟩
    · rw [totalCompare, compareRationals, if_neg below.not_gt, if_pos below]
    · exact if_neg below.not_gt
  · rcases toRational?_eq_some_iff.mp rightStands with rfl | ⟨rfl, rfl⟩
    · exact if_pos below
    · exact absurd below (lt_irrefl 0)

theorem le_of_totalCompare {left right : Binary64} {leftValue rightValue : Rat}
    (leftStands : left.toRational? = some leftValue)
    (rightStands : right.toRational? = some rightValue)
    (above : left.totalCompare right = .gt) : rightValue ≤ leftValue := by
  by_contra below
  have reversed := totalCompare_of_lt rightStands leftStands (not_le.mp below)
  rw [totalCompare_swap, above] at reversed
  cases reversed

end Curator.Binary64
