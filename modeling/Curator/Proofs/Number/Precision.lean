import Curator.Proofs.Number.Rounding

/-! How far rounding moves a rational. The nearest double is at most half of the distance between
its neighbours away. Powers of two are doubles, so that one may be multiplied before rounding or
after it, and a double times a power of two needs no rounding but at the ends of the range. -/
namespace Curator.Binary64

variable {value : Rat} {power order : Int}

theorem abs_nearestEven_sub_le (value : Rat) : |(nearestEven value : ℚ) - value| ≤ 1 / 2 := by
  have low : (value.floor : ℚ) ≤ value := Int.floor_le value
  have high : value < (value.floor : ℚ) + 1 := Int.lt_floor_add_one value
  unfold nearestEven
  dsimp only
  rw [abs_le]
  split_ifs <;> push_cast <;> constructor <;> linarith

theorem abs_nearest_sub_le_grid (nonzero : value ≠ 0) :
    |nearest value - value| ≤ twoTo (grid value) / 2 := by
  have positive := twoTo_pos (grid value)
  have scaled : nearest value - value =
      (nearestEven (value / twoTo (grid value)) - value / twoTo (grid value)) *
        twoTo (grid value) := by
    rw [nearest_of_ne_zero nonzero, sub_mul, div_mul_cancel₀ _ positive.ne']
  rw [scaled, abs_mul, abs_of_pos positive]
  have half := abs_nearestEven_sub_le (value / twoTo (grid value))
  calc _ ≤ 1 / 2 * twoTo (grid value) := mul_le_mul_of_nonneg_right half positive.le
    _ = twoTo (grid value) / 2 := by ring

theorem binaryOrder_eq (low : twoTo order ≤ |value|) (high : |value| < twoTo (order + 1)) :
    binaryOrder value = order := by
  have nonzero : value ≠ 0 := abs_pos.mp ((twoTo_pos order).trans_le low)
  have below := twoTo_lt_twoTo_iff.mp ((twoTo_binaryOrder_le nonzero).trans_lt high)
  have above := twoTo_lt_twoTo_iff.mp (low.trans_lt (lt_twoTo_binaryOrder nonzero))
  omega

theorem le_binaryOrder (low : twoTo order ≤ |value|) : order ≤ binaryOrder value := by
  have nonzero : value ≠ 0 := abs_pos.mp ((twoTo_pos order).trans_le low)
  have above := twoTo_lt_twoTo_iff.mp (low.trans_lt (lt_twoTo_binaryOrder nonzero))
  omega

/-- From the smallest normal double on, rounding moves a rational by no more than its share of two
to the -53. -/
theorem abs_nearest_sub_le (normal : twoTo (-1022) ≤ |value|) :
    |nearest value - value| ≤ twoTo (-53) * |value| := by
  have nonzero : value ≠ 0 := abs_pos.mp ((twoTo_pos _).trans_le normal)
  have spaced : grid value = -53 + binaryOrder value + 1 := by
    have := le_binaryOrder normal
    unfold grid
    omega
  have one : twoTo 1 = 2 := rfl
  calc |nearest value - value| ≤ twoTo (grid value) / 2 := abs_nearest_sub_le_grid nonzero
    _ = twoTo (-53) * twoTo (binaryOrder value) := by
      rw [spaced, twoTo_add, twoTo_add, one]
      ring
    _ ≤ twoTo (-53) * |value| :=
      mul_le_mul_of_nonneg_left (twoTo_binaryOrder_le nonzero) (twoTo_pos _).le

theorem binaryOrder_twoTo (power : Int) : binaryOrder (twoTo power) = power := by
  have positive := twoTo_pos power
  refine binaryOrder_eq ?_ ?_ <;> rw [abs_of_pos positive]
  exact twoTo_lt_twoTo_iff.mpr (by omega)

theorem nearest_twoTo (fine : -1074 ≤ power) : nearest (twoTo power) = twoTo power := by
  rw [nearest_of_ne_zero (twoTo_pos power).ne']
  refine nearestEven_twoTo ?_
  rw [grid, binaryOrder_twoTo]
  omega

theorem nearest_eq_self_of_multiple (count : Int) (nonzero : value ≠ 0)
    (multiple : value = count * twoTo (grid value)) : nearest value = value := by
  have quotient : value / twoTo (grid value) = count := by
    rw [div_eq_iff (twoTo_pos _).ne', ← multiple]
  rw [nearest_of_ne_zero nonzero, quotient, nearestEven_intCast, ← multiple]

theorem twoTo_binaryOrder_le_nearest (normal : twoTo (-1022) ≤ value) :
    twoTo (binaryOrder value) ≤ nearest value := by
  have positive := (twoTo_pos _).trans_le normal
  have low := twoTo_binaryOrder_le positive.ne'
  have orderLow := le_binaryOrder (by rwa [abs_of_pos positive])
  rw [abs_of_pos positive] at low
  refine twoTo_le_nearest low ?_
  unfold grid
  omega

theorem nearest_nearest (normal : twoTo (-1022) ≤ value) :
    nearest (nearest value) = nearest value := by
  have positive := (twoTo_pos _).trans_le normal
  have orderLow := le_binaryOrder (by rwa [abs_of_pos positive])
  have low := twoTo_binaryOrder_le_nearest normal
  have high := lt_twoTo_binaryOrder positive.ne'
  rw [abs_of_pos positive] at high
  have atMost : nearest value ≤ twoTo (binaryOrder value + 1) :=
    nearest_le_twoTo positive high.le (by unfold grid; omega)
  have nearestPositive := (twoTo_pos _).trans_le low
  rcases atMost.lt_or_eq with below | same
  · have sameOrder : binaryOrder (nearest value) = binaryOrder value :=
      binaryOrder_eq (by rwa [abs_of_pos nearestPositive]) (by rwa [abs_of_pos nearestPositive])
    have sameGrid : grid (nearest value) = grid value := by rw [grid, sameOrder, ← grid]
    refine nearest_eq_self_of_multiple (nearestEven (value / twoTo (grid value)))
      nearestPositive.ne' ?_
    rw [sameGrid]
    exact nearest_of_ne_zero positive.ne'
  · rw [same]
    exact nearest_twoTo (by omega)

/-- A power of two may be multiplied before rounding or after it. -/
theorem nearest_mul_twoTo (normal : twoTo (-1022) ≤ value) (up : 0 ≤ power) :
    nearest (value * twoTo power) = nearest value * twoTo power := by
  have positive := (twoTo_pos _).trans_le normal
  have scaledPositive := mul_pos positive (twoTo_pos power)
  have low := twoTo_binaryOrder_le positive.ne'
  have high := lt_twoTo_binaryOrder positive.ne'
  have orderLow := le_binaryOrder (by rwa [abs_of_pos positive])
  rw [abs_of_pos positive] at low high
  have scaledOrder : binaryOrder (value * twoTo power) = binaryOrder value + power := by
    refine binaryOrder_eq ?_ ?_ <;> rw [abs_of_pos scaledPositive]
    · rw [twoTo_add]
      exact mul_le_mul_of_nonneg_right low (twoTo_pos power).le
    · rw [add_right_comm, twoTo_add]
      exact mul_lt_mul_of_pos_right high (twoTo_pos power)
  have scaledGrid : grid (value * twoTo power) = grid value + power := by
    unfold grid
    omega
  rw [nearest_of_ne_zero scaledPositive.ne', nearest_of_ne_zero positive.ne', scaledGrid, twoTo_add,
    mul_div_mul_right _ _ (twoTo_pos power).ne', mul_assoc]

theorem nearest_nearest_mul_twoTo (normal : twoTo (-1022) ≤ value) (up : 0 ≤ power) :
    nearest (nearest value * twoTo power) = nearest value * twoTo power := by
  have stays : twoTo (-1022) ≤ nearest value := by
    rw [← nearest_twoTo (by decide : (-1074 : Int) ≤ -1022)]
    exact nearest_mono normal
  rw [nearest_mul_twoTo stays up, nearest_nearest normal]

theorem roundHalfAway_of_nonneg (nonneg : 0 ≤ value) : roundHalfAway value = ⌊value + 1 / 2⌋ := by
  rw [roundHalfAway, if_neg nonneg.not_gt, magnitude_eq_abs, abs_of_nonneg nonneg]
  rfl

theorem abs_roundHalfAway_sub_le (nonneg : 0 ≤ value) :
    |(roundHalfAway value : ℚ) - value| ≤ 1 / 2 := by
  have low := Int.floor_le (value + 1 / 2)
  have high := Int.lt_floor_add_one (value + 1 / 2)
  rw [roundHalfAway_of_nonneg nonneg, abs_le]
  constructor <;> linarith

theorem le_roundHalfAway {limit : Nat} (reached : (limit : ℚ) ≤ value) :
    limit ≤ (roundHalfAway value).toNat := by
  have nonneg : 0 ≤ value := limit.cast_nonneg.trans reached
  have atLeast : (limit : Int) ≤ ⌊value + 1 / 2⌋ := by
    rw [Int.le_floor]
    push_cast
    linarith
  rw [roundHalfAway_of_nonneg nonneg]
  omega

theorem ofRational_of_pos (positive : 0 < nearest value) :
    ofRational value =
      if twoTo 1024 ≤ nearest value then infinite false else finite (nearest value) := by
  rw [ofRational, if_neg positive.ne', magnitude_eq_abs, abs_of_pos positive,
    decide_eq_false positive.not_gt]

theorem roundSaturating_ofRational {limit : Nat} (inRange : (limit : ℚ) ≤ twoTo 1024)
    (positive : 0 < nearest value) :
    (ofRational value).roundSaturating limit = min limit (roundHalfAway (nearest value)).toNat := by
  rw [ofRational_of_pos positive]
  split
  · rename_i large
    exact (min_eq_left (le_roundHalfAway (inRange.trans large))).symm
  · rfl

/-- A number that is scaled by a power of two and rounded to an integer within a range has been
rounded to double precision once. -/
theorem roundSaturating_multiply {limit : Nat} (inRange : (limit : ℚ) ≤ twoTo 1024)
    (normal : twoTo (-1022) ≤ value) (up : 0 ≤ power) (small : power < 1024) :
    ((ofRational value).multiply (ofRational (twoTo power))).roundSaturating limit =
      min limit (roundHalfAway (nearest value * twoTo power)).toNat := by
  have positive := (twoTo_pos _).trans_le (twoTo_binaryOrder_le_nearest normal)
  have factorPositive := twoTo_pos power
  have factor : ofRational (twoTo power) = finite (twoTo power) := by
    have same := nearest_twoTo (by omega : -1074 ≤ power)
    rw [ofRational_of_pos (by rwa [same]), same, if_neg (by rw [twoTo_le_twoTo_iff]; omega)]
  have productPositive := mul_pos positive factorPositive
  have product := nearest_nearest_mul_twoTo normal up
  rw [factor, ofRational_of_pos positive]
  split
  · rename_i large
    have oneLe : twoTo 0 ≤ twoTo power := twoTo_le_twoTo_iff.mpr up
    have scaled : multiply (infinite false) (finite (twoTo power)) = infinite false := by
      simp [multiply, toRational?, isNegative, factorPositive.ne', factorPositive.not_gt]
    rw [scaled]
    refine (min_eq_left (le_roundHalfAway ?_)).symm
    calc (limit : ℚ) ≤ nearest value := inRange.trans large
      _ ≤ nearest value * twoTo power := le_mul_of_one_le_right positive.le oneLe
  · have scaled : multiply (finite (nearest value)) (finite (twoTo power)) =
        ofRational (nearest value * twoTo power) := by
      simp only [multiply, toRational?, if_neg productPositive.ne']
    rw [scaled, roundSaturating_ofRational inRange (by rwa [product]), product]

end Curator.Binary64
