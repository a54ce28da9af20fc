import Curator.Ranking.Priority
import Mathlib.Algebra.Order.Group.Unbundled.Int
import Mathlib.Data.Int.Order.Basic
import Mathlib.Tactic.Linarith

/-! Sizes rounded to whole steps. The sum in front of the division stops at the greatest size, but
the greatest multiple of the step lies less than half a step below that size, so that up to the end
of the range the rounded size is the nearest multiple. The arithmetic of 64 bits is enough for it.
-/
namespace Curator.Ranking

/-- A multiple of the step that is as near to a size as any, the greater one of two equally near. -/
structure IsNearestMultiple (size bucket : Nat) : Prop where
  isMultiple : sizeStep ∣ bucket
  withinHalf : 2 * |(bucket : Int) - size| ≤ sizeStep
  nearest : ∀ other, sizeStep ∣ other → |(bucket : Int) - size| ≤ |(other : Int) - size|
  upward : ∀ other, sizeStep ∣ other → |(bucket : Int) - size| = |(other : Int) - size| →
    other ≤ bucket

/-- The rounded size is less than half a step below the size, and at most half a step above it. -/
theorem sizeBucket_bounds (size : UInt64) :
    sizeBucket size ≤ size.toNat + sizeStep / 2 ∧ size.toNat < sizeBucket size + sizeStep / 2 := by
  have small := size.toNat_lt
  unfold sizeBucket sizeStep greatestSize
  omega

theorem sizeBucket_le (size : UInt64) : sizeBucket size ≤ greatestSize := by
  calc sizeBucket size ≤ min (size.toNat + sizeStep / 2) greatestSize := Nat.div_mul_le_self _ _
    _ ≤ greatestSize := Nat.min_le_right _ _

theorem isNearestMultiple_of_bounds {size bucket : Nat} (isMultiple : sizeStep ∣ bucket)
    (low : bucket ≤ size + sizeStep / 2) (high : size < bucket + sizeStep / 2) :
    IsNearestMultiple size bucket := by
  obtain ⟨steps, rfl⟩ := isMultiple
  unfold sizeStep at low high
  refine ⟨⟨steps, rfl⟩, ?_, ?_, ?_⟩
  · rw [abs_eq_max_neg, sizeStep]
    omega
  · rintro _ ⟨others, rfl⟩
    rw [abs_eq_max_neg, abs_eq_max_neg, sizeStep]
    omega
  · rintro _ ⟨others, rfl⟩ same
    rw [abs_eq_max_neg, abs_eq_max_neg, sizeStep] at same
    rw [sizeStep]
    omega

theorem isNearestMultiple_sizeBucket (size : UInt64) :
    IsNearestMultiple size.toNat (sizeBucket size) := by
  obtain ⟨low, high⟩ := sizeBucket_bounds size
  exact isNearestMultiple_of_bounds (Nat.dvd_mul_left _ _) low high

theorem sizeBucket_mono {size larger : UInt64} (atMost : size ≤ larger) :
    sizeBucket size ≤ sizeBucket larger := by
  have sums := Nat.add_le_add_right (UInt64.le_iff_toNat_le.mp atMost) (sizeStep / 2)
  exact Nat.mul_le_mul_right _ (Nat.div_le_div_right (min_le_min_right greatestSize sums))

theorem toNat_toUInt64 {count : Nat} (fits : count ≤ greatestSize) :
    count.toUInt64.toNat = count :=
  Nat.mod_eq_of_lt (Nat.lt_succ_of_le fits)

theorem sizeBucket_sizeBucket (size : UInt64) :
    sizeBucket (sizeBucket size).toUInt64 = sizeBucket size := by
  have kept := toNat_toUInt64 (sizeBucket_le size)
  have nearest := (isNearestMultiple_sizeBucket (sizeBucket size).toUInt64).nearest
    (sizeBucket size) (isNearestMultiple_sizeBucket size).isMultiple
  rw [kept, sub_self, abs_zero] at nearest
  have none := abs_eq_zero.mp (le_antisymm nearest (abs_nonneg _))
  omega

/-- The sum of two words, or the greatest word where the sum does not fit. -/
def addSaturating (left right : UInt64) : UInt64 :=
  (min (left.toNat + right.toNat) greatestSize).toUInt64

/-- The product of two words, unless it does not fit. -/
def multiply? (left right : UInt64) : Option UInt64 :=
  if left.toNat * right.toNat ≤ greatestSize then some (left * right) else none

/-- A word shared out among a number of items, unless there are none. -/
def shareOut? (total : UInt64) (count : Nat) : Option UInt64 :=
  if count = 0 then none else some (total.toNat / count).toUInt64

/-- The rounded size, calculated in words. -/
def sizeBucket? (size : UInt64) : Option UInt64 := do
  let steps ← shareOut? (addSaturating size (sizeStep / 2).toUInt64) sizeStep
  multiply? steps sizeStep.toUInt64

/-- The rounded size for each episode, calculated in words. -/
def sizePerEpisode? (decision : DownloadDecision) : Option UInt64 := do
  let bucket ← sizeBucket? decision.release.size
  shareOut? bucket (max decision.episodes.length 1)

theorem toNat_addSaturating (left right : UInt64) :
    (addSaturating left right).toNat = min (left.toNat + right.toNat) greatestSize :=
  toNat_toUInt64 (Nat.min_le_right _ _)

theorem shareOut?_eq {total : UInt64} {count : Nat} (shown : count ≠ 0) :
    ∃ word, shareOut? total count = some word ∧ word.toNat = total.toNat / count := by
  have fits : total.toNat / count ≤ greatestSize :=
    (Nat.div_le_self _ _).trans (Nat.le_of_lt_succ total.toNat_lt)
  exact ⟨_, if_neg shown, toNat_toUInt64 fits⟩

theorem multiply?_eq {left right : UInt64} (fits : left.toNat * right.toNat ≤ greatestSize) :
    ∃ word, multiply? left right = some word ∧ word.toNat = left.toNat * right.toNat :=
  ⟨_, if_pos fits, Nat.mod_eq_of_lt (Nat.lt_succ_of_le fits)⟩

theorem sizeBucket?_eq (size : UInt64) :
    ∃ word, sizeBucket? size = some word ∧ word.toNat = sizeBucket size := by
  have half : (sizeStep / 2).toUInt64.toNat = sizeStep / 2 := toNat_toUInt64 (by decide)
  obtain ⟨steps, shared, counted⟩ :=
    @shareOut?_eq (addSaturating size (sizeStep / 2).toUInt64) sizeStep (by decide)
  have product : steps.toNat * sizeStep.toUInt64.toNat = sizeBucket size := by
    rw [counted, toNat_addSaturating, half, toNat_toUInt64 (by decide), sizeBucket]
  obtain ⟨word, multiplied, same⟩ :=
    @multiply?_eq steps sizeStep.toUInt64 (product ▸ sizeBucket_le size)
  refine ⟨word, ?_, same.trans product⟩
  rw [sizeBucket?, shared, Option.bind_eq_bind, Option.bind_some, multiplied]

theorem sizePerEpisode?_eq (decision : DownloadDecision) :
    ∃ word, sizePerEpisode? decision = some word ∧ word.toNat = sizePerEpisode decision := by
  obtain ⟨bucket, rounded, same⟩ := sizeBucket?_eq decision.release.size
  obtain ⟨word, shared, quotient⟩ :=
    @shareOut?_eq bucket (max decision.episodes.length 1) (by omega)
  rw [same] at quotient
  refine ⟨word, ?_, quotient⟩
  rw [sizePerEpisode?, rounded, Option.bind_eq_bind, Option.bind_some, shared]

theorem sizePerEpisode_mono {left right : DownloadDecision} (episodes : left.episodes = right.episodes)
    (atMost : left.release.size ≤ right.release.size) :
    sizePerEpisode left ≤ sizePerEpisode right := by
  rw [sizePerEpisode, sizePerEpisode, episodes]
  exact Nat.div_le_div_right (sizeBucket_mono atMost)

/-- Sizes are compared by their nearest multiples of the step, which keep their order and need no
more than words of 64 bits, the greatest sizes included. -/
theorem sizes_compare_in_steps :
    (∀ size, IsNearestMultiple size.toNat (sizeBucket size)) ∧
    (∀ size larger, size ≤ larger → sizeBucket size ≤ sizeBucket larger) ∧
    (∀ size, sizeBucket (sizeBucket size).toUInt64 = sizeBucket size) ∧
    (∀ left right : DownloadDecision, left.episodes = right.episodes →
      left.release.size ≤ right.release.size → sizePerEpisode left ≤ sizePerEpisode right) ∧
    (∀ size, (sizeBucket? size).map UInt64.toNat = some (sizeBucket size)) ∧
    ∀ decision, (sizePerEpisode? decision).map UInt64.toNat = some (sizePerEpisode decision) := by
  refine ⟨isNearestMultiple_sizeBucket, fun _ _ => sizeBucket_mono, sizeBucket_sizeBucket,
    fun _ _ => sizePerEpisode_mono, ?_, ?_⟩
  · intro size
    obtain ⟨word, calculated, same⟩ := sizeBucket?_eq size
    rw [calculated, Option.map_some, same]
  · intro decision
    obtain ⟨word, calculated, same⟩ := sizePerEpisode?_eq decision
    rw [calculated, Option.map_some, same]

end Curator.Ranking
