import Curator.Proofs.Number.Rounding

/-! What quotients, comparisons and moves into a range do to the rationals that doubles stand for.
-/
namespace Curator.Binary64

/-- Within the range of doubles, the nearest double is a number. -/
theorem toRational?_ofRational {value : Rat} (inRange : |nearest value| < twoTo 1024) :
    (ofRational value).toRational? = some (nearest value) := by
  unfold ofRational
  dsimp only
  rw [magnitude_eq_abs]
  split
  · rename_i isZero
    rw [isZero]
    split <;> rfl
  · rw [if_neg inRange.not_ge]
    rfl

/-- A quotient by another number than zero is that of the rationals, rounded. -/
theorem toRational?_divide {left right : Binary64} {dividend divisor : Rat}
    (leftStands : left.toRational? = some dividend)
    (rightStands : right.toRational? = some divisor) (nonzero : divisor ≠ 0)
    (inRange : |nearest (dividend / divisor)| < twoTo 1024) :
    (left.divide right).toRational? = some (nearest (dividend / divisor)) := by
  have signed (negative : Bool) : (signedZero negative).toRational? = some (nearest 0) := by
    cases negative <;> rfl
  obtain rfl : right = finite divisor := by
    rcases toRational?_eq_some_iff.mp rightStands with same | ⟨_, isZero⟩
    · exact same
    · exact absurd isZero nonzero
  have quotient : left.divide (finite divisor) =
      if dividend = 0 then signedZero (left.isNegative != (finite divisor).isNegative)
      else ofRational (dividend / divisor) := by
    rcases toRational?_eq_some_iff.mp leftStands with rfl | ⟨rfl, rfl⟩ <;>
      exact if_neg nonzero
  rw [quotient]
  split
  · rename_i isZero
    rw [isZero, zero_div]
    exact signed _
  · exact toRational?_ofRational inRange

/-- Numbers that stand for rationals are less where these are. -/
theorem lessThan_iff {left right : Binary64} {leftValue rightValue : Rat}
    (leftStands : left.toRational? = some leftValue)
    (rightStands : right.toRational? = some rightValue) :
    left.lessThan right = true ↔ leftValue < rightValue := by
  have onRationals : decide (leftValue < rightValue) = true ↔ leftValue < rightValue :=
    decide_eq_true_iff
  rcases toRational?_eq_some_iff.mp leftStands with rfl | ⟨rfl, rfl⟩ <;>
    rcases toRational?_eq_some_iff.mp rightStands with rfl | ⟨rfl, rfl⟩ <;> exact onRationals

/-- Numbers that stand for rationals are at most each other where these are. -/
theorem atMost_iff {left right : Binary64} {leftValue rightValue : Rat}
    (leftStands : left.toRational? = some leftValue)
    (rightStands : right.toRational? = some rightValue) :
    left.atMost right = true ↔ leftValue ≤ rightValue := by
  have reversed : left.atMost right = !lessThan right left := by
    rcases toRational?_eq_some_iff.mp leftStands with rfl | ⟨rfl, rfl⟩ <;>
      rcases toRational?_eq_some_iff.mp rightStands with rfl | ⟨rfl, rfl⟩ <;> rfl
  rw [reversed, Bool.not_eq_true', Bool.eq_false_iff, ne_eq, lessThan_iff rightStands leftStands,
    not_lt]

/-- A number that stands for a rational is moved as the rational is. -/
theorem toRational?_clamp {number : Binary64} {value : Rat}
    (stands : number.toRational? = some value) :
    (number.clamp (finite 0) (finite 1)).toRational? = some (min (max value 0) 1) := by
  obtain ⟨raised, same, raisedStands⟩ : ∃ raised,
      raised = (if number.lessThan (finite 0) then finite 0 else number) ∧
        raised.toRational? = some (max value 0) := by
    refine ⟨_, rfl, ?_⟩
    split
    · rename_i below
      rw [max_eq_right ((lessThan_iff stands rfl).mp below).le]
      rfl
    · rename_i notBelow
      rw [stands, max_eq_left (not_lt.mp ((lessThan_iff stands rfl).not.mp notBelow))]
  unfold clamp
  dsimp only
  rw [← same]
  split
  · rename_i above
    rw [min_eq_right ((lessThan_iff rfl raisedStands).mp above).le]
    rfl
  · rename_i notAbove
    rw [raisedStands, min_eq_left (not_lt.mp ((lessThan_iff rfl raisedStands).not.mp notAbove))]

end Curator.Binary64
