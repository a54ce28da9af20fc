import Curator.Proofs.Number.Rounding
import Curator.Proofs.Ranking.Comparison
import Curator.Ranking.Ratings

/-! Which of two releases is liked better never contradicts itself. Ratings within the tolerance of
each other count as equal, so that being equal is not transitive; being better is, since rounding
keeps the order of the differences of ratings. -/
namespace Curator.Ranking

open Binary64

private def tolerance : Rat :=
  nearest (1 / 5)

private theorem ratingTolerance_eq : ratingTolerance = .finite tolerance := by
  decide +kernel

private theorem tolerance_nonneg : 0 ≤ tolerance :=
  nearest_nonneg (by norm_num)

private theorem tolerance_inRange : tolerance < twoTo 1024 := by
  decide +kernel

/-- Whether a rating is above another by more than the tolerance. -/
def FarAbove (left right : Binary64) : Prop :=
  ratingTolerance.lessThan (left.subtract right).absolute = true ∧ left.totalCompare right = .gt

private theorem not_farAbove_nan (number : Binary64) :
    ¬ FarAbove nan number ∧ ¬ FarAbove number nan := by
  unfold FarAbove
  rw [(subtract_nan number).1, (subtract_nan number).2, ratingTolerance_eq]
  constructor <;> rintro ⟨exceeds, _⟩ <;> cases exceeds

private theorem infinite_farAbove_iff (negative : Bool) (number : Binary64) :
    FarAbove (infinite negative) number ↔
      negative = false ∧ number ≠ nan ∧ number ≠ infinite false := by
  rcases number.nan_or_infinite_or_rational with rfl | ⟨other, rfl⟩ | ⟨value, stands⟩
  · simp [not_farAbove_nan]
  · unfold FarAbove
    cases negative <;> cases other <;> decide +kernel
  · rw [FarAbove, (absolute_subtract_infinite stands negative).1, ratingTolerance_eq]
    rcases toRational?_eq_some_iff.mp stands with rfl | ⟨rfl, rfl⟩
    · cases negative <;> simp [lessThan, totalCompare]
    · cases negative <;> simp [lessThan, totalCompare]

private theorem farAbove_infinite_iff (number : Binary64) (negative : Bool) :
    FarAbove number (infinite negative) ↔
      negative = true ∧ number ≠ nan ∧ number ≠ infinite true := by
  rcases number.nan_or_infinite_or_rational with rfl | ⟨other, rfl⟩ | ⟨value, stands⟩
  · simp [not_farAbove_nan]
  · unfold FarAbove
    cases negative <;> cases other <;> decide +kernel
  · rw [FarAbove, (absolute_subtract_infinite stands negative).2, ratingTolerance_eq]
    rcases toRational?_eq_some_iff.mp stands with rfl | ⟨rfl, rfl⟩
    · cases negative <;> simp [lessThan, totalCompare]
    · cases negative <;> simp [lessThan, totalCompare]

/-- Of ratings that stand for rationals the greater one is far above the other when their rounded
difference exceeds the tolerance. -/
private theorem farAbove_iff {left right : Binary64} {leftValue rightValue : Rat}
    (leftStands : left.toRational? = some leftValue)
    (rightStands : right.toRational? = some rightValue) :
    FarAbove left right ↔
      rightValue < leftValue ∧ tolerance < nearest (leftValue - rightValue) := by
  rw [FarAbove, absolute_subtract leftStands rightStands, ratingTolerance_eq,
    lessThan_absolute_ofRational_iff tolerance_nonneg tolerance_inRange]
  constructor
  · rintro ⟨exceeds, above⟩
    have atMost := le_of_totalCompare leftStands rightStands above
    rw [abs_of_nonneg (nearest_nonneg (sub_nonneg.mpr atMost))] at exceeds
    refine ⟨lt_of_le_of_ne atMost ?_, exceeds⟩
    rintro rfl
    rw [sub_self, nearest_zero] at exceeds
    exact tolerance_nonneg.not_gt exceeds
  · rintro ⟨below, exceeds⟩
    rw [abs_of_nonneg (nearest_nonneg (sub_pos.mpr below).le)]
    exact ⟨exceeds, totalCompare_of_lt leftStands rightStands below⟩

/-- What is far above a rating is far above all that this one is far above. -/
theorem FarAbove.trans {first second third : Binary64} (upper : FarAbove first second)
    (lower : FarAbove second third) : FarAbove first third := by
  rcases second.nan_or_infinite_or_rational with rfl | ⟨negative, rfl⟩ | ⟨middle, middleStands⟩
  · exact absurd upper (not_farAbove_nan first).2
  · -- Nothing is far above the greatest number, and nothing far below the least one.
    have isNegative := ((farAbove_infinite_iff first negative).mp upper).1
    have isPositive := ((infinite_farAbove_iff negative third).mp lower).1
    rw [isNegative] at isPositive
    cases isPositive
  · rcases first.nan_or_infinite_or_rational with rfl | ⟨negative, rfl⟩ | ⟨top, topStands⟩
    · exact absurd upper (not_farAbove_nan second).1
    · obtain ⟨rfl, _⟩ := (infinite_farAbove_iff negative second).mp upper
      rw [infinite_farAbove_iff]
      refine ⟨rfl, ?_, ?_⟩
      · rintro rfl
        exact (not_farAbove_nan second).2 lower
      · rintro rfl
        cases ((farAbove_infinite_iff second false).mp lower).1
    · rcases third.nan_or_infinite_or_rational with rfl | ⟨negative, rfl⟩ | ⟨base, baseStands⟩
      · exact absurd lower (not_farAbove_nan second).2
      · obtain ⟨rfl, _⟩ := (farAbove_infinite_iff second negative).mp lower
        rw [farAbove_infinite_iff]
        refine ⟨rfl, ?_, ?_⟩ <;> rintro rfl <;> cases topStands
      · obtain ⟨middleBelow, exceeds⟩ := (farAbove_iff topStands middleStands).mp upper
        obtain ⟨baseBelow, _⟩ := (farAbove_iff middleStands baseStands).mp lower
        refine (farAbove_iff topStands baseStands).mpr ⟨baseBelow.trans middleBelow, ?_⟩
        exact exceeds.trans_le (nearest_mono (sub_le_sub_left baseBelow.le top))

theorem compareCombined_eq_gt_iff (left right : UserRatings) :
    compareCombined left right = .gt ↔ FarAbove left.combined right.combined := by
  unfold compareCombined FarAbove
  split <;> simp_all

theorem compareCombined_swap (left right : UserRatings) :
    compareCombined left right = (compareCombined right left).swap := by
  unfold compareCombined
  rw [absolute_subtract_comm, totalCompare_swap]
  split <;> rfl

/-- Tiers are compared by three keys, one after the other. -/
instance : Std.TransCmp Tier.compare := by
  unfold Tier.compare compareBool
  exact transCmp_then (transCmp_key fun tier : Tier => tier.isRated.toNat) <|
    transCmp_then (transCmp_key fun tier : Tier => tier.isUsable.toNat)
      (transCmp_key fun tier : Tier => tier.votes.rank)

/-- The ratings compared where both sides have them. -/
def compareReported : Option UserRatings → Option UserRatings → Ordering
  | some left, some right => compareCombined left right
  | _, _ => .eq

theorem compareRatings_eq (left right : Option UserRatings) :
    compareRatings left right =
      ((tier left).compare (tier right)).then (compareReported left right) := by
  cases left with
  | none => cases right <;> rfl
  | some left =>
    cases right with
    | none => rfl
    | some right =>
      rw [Tier.compare, Ordering.then_assoc, Ordering.then_assoc]
      rfl

theorem compareReported_swap (left right : Option UserRatings) :
    compareReported left right = (compareReported right left).swap := by
  cases left with
  | none => cases right <;> rfl
  | some left =>
    cases right with
    | none => rfl
    | some right => exact compareCombined_swap left right

theorem compareReported_trans {first second third : Option UserRatings}
    (upper : compareReported first second = .gt) (lower : compareReported second third = .gt) :
    compareReported first third = .gt := by
  cases first with
  | none => cases upper
  | some first =>
    cases second with
    | none => cases upper
    | some second =>
      cases third with
      | none => cases lower
      | some third =>
        have far := ((compareCombined_eq_gt_iff first second).mp upper).trans
          ((compareCombined_eq_gt_iff second third).mp lower)
        exact (compareCombined_eq_gt_iff first third).mpr far

/-- To be liked better is a strict order of all optional ratings, whatever the numbers in them:
comparing the other way round turns the answer around, nothing is better or worse than itself, and
what is better than the better one of two is better than the other. -/
theorem compareRatings_consistent :
    (∀ left right, compareRatings left right = (compareRatings right left).swap) ∧
    (∀ ratings, compareRatings ratings ratings = .eq) ∧
    ∀ first second third, compareRatings first second = .gt →
      compareRatings second third = .gt → compareRatings first third = .gt := by
  have swap (left right : Option UserRatings) :
      compareRatings left right = (compareRatings right left).swap := by
    have tiers : (tier left).compare (tier right) = ((tier right).compare (tier left)).swap :=
      Std.OrientedCmp.eq_swap
    rw [compareRatings_eq, compareRatings_eq, Ordering.swap_then, tiers, compareReported_swap]
  refine ⟨swap, ?_, ?_⟩
  · intro ratings
    have same := swap ratings ratings
    cases answer : compareRatings ratings ratings with
    | eq => rfl
    | lt | gt =>
      rw [answer] at same
      cases same
  · intro first second third upper lower
    rw [compareRatings_eq, Ordering.then_eq_gt] at upper lower ⊢
    -- The first of the two comparisons that tiers decide settles the third one.
    rcases upper with upperTier | ⟨upperEqual, upperReported⟩
    · left
      rcases lower with lowerTier | ⟨lowerEqual, _⟩
      · exact Std.TransCmp.gt_trans upperTier lowerTier
      · exact Std.TransCmp.gt_of_gt_of_eq upperTier lowerEqual
    · rcases lower with lowerTier | ⟨lowerEqual, lowerReported⟩
      · exact .inl (Std.TransCmp.gt_of_eq_of_gt upperEqual lowerTier)
      · exact .inr ⟨Std.TransCmp.eq_trans upperEqual lowerEqual,
          compareReported_trans upperReported lowerReported⟩

/-- A boundless picture rating beats a middling one, which beats having no ratings. -/
theorem compareRatings_boundless_over_unrated :
    compareRatings (some { videoRating := some (.infinite false) }) (some {}) = .gt ∧
    compareRatings (some {}) none = .gt ∧
    compareRatings (some { videoRating := some (.infinite false) }) none = .gt := by
  have upper :
      compareRatings (some { videoRating := some (.infinite false) }) (some {}) = .gt := by
    decide +kernel
  have lower : compareRatings (some {}) none = .gt := rfl
  exact ⟨upper, lower, compareRatings_consistent.2.2 _ _ _ upper lower⟩

end Curator.Ranking
