import Curator.Proofs.Number.Fraction
import Curator.Release.UserRatings

/-! The verdict of the votes. It compares two rounded quotients with two thirds, rounded as well. As
the counts have 32 bits, a share that misses two thirds misses it by more than rounding can make up
for: the verdict is the one that whole numbers give. -/
namespace Curator

/-- The verdict when votes for and against a release are taken for each other. -/
def VoteClass.opposite : VoteClass → VoteClass
  | bad => good
  | neutral => neutral
  | good => bad

namespace UserRatings

open Binary64

theorem toRational?_supermajority :
    supermajority.toRational? = some (nearest (((2 : Nat) : Rat) / ((3 : Nat) : Rat))) := by
  refine toRational?_ofRational ?_
  calc |nearest (((2 : Nat) : Rat) / ((3 : Nat) : Rat))|
      ≤ twoTo 0 := abs_nearest_le_one (abs_div_le_one (by decide))
    _ < twoTo 1024 := twoTo_lt_twoTo_iff.mpr (by decide)

/-- As a double, a share of the votes reaches two thirds exactly where it does so as a fraction. -/
theorem supermajority_atMost_share_iff {part whole : Nat} (within : part ≤ whole)
    (shown : 0 < whole) (small : whole < 2 ^ 33) :
    supermajority.atMost (share part whole) = true ↔ 2 * whole ≤ 3 * part := by
  have stands : (share part whole).toRational? = some (nearest ((part : Rat) / whole)) :=
    toRational?_divide_natCast within shown (by omega)
  rw [atMost_iff toRational?_supermajority stands,
    nearest_div_le_nearest_div_iff (by decide) (by decide) shown (by omega),
    Nat.mul_comm part]

/-- Of at least five votes, two thirds are on one side. -/
def IsSettled (part other : Nat) : Prop :=
  5 ≤ part + other ∧ 2 * (part + other) ≤ 3 * part

instance (part other : Nat) : Decidable (IsSettled part other) :=
  inferInstanceAs (Decidable (_ ∧ _))

theorem IsSettled.not_swap {part other : Nat} (settled : IsSettled part other) :
    ¬ IsSettled other part := by
  unfold IsSettled at *
  omega

theorem classify_eq {up down : Nat} (upSmall : up < 2 ^ 32) (downSmall : down < 2 ^ 32) :
    classify up down =
      if IsSettled up down then .good else if IsSettled down up then .bad else .neutral := by
  unfold classify leastVotes
  by_cases few : up + down < 5
  · have noGood : ¬ IsSettled up down := fun settled => by
      have := settled.1
      omega
    have noBad : ¬ IsSettled down up := fun settled => by
      have := settled.1
      omega
    rw [if_pos few, if_neg noGood, if_neg noBad]
  · have good := @supermajority_atMost_share_iff up (up + down) (by omega) (by omega) (by omega)
    have bad := @supermajority_atMost_share_iff down (up + down) (by omega) (by omega) (by omega)
    have goodIff : IsSettled up down ↔ 2 * (up + down) ≤ 3 * up := and_iff_right (by omega)
    have badIff : IsSettled down up ↔ 2 * (up + down) ≤ 3 * down := by
      rw [Nat.add_comm up]
      exact and_iff_right (by omega)
    simp only [if_neg few, good, bad, goodIff, badIff]

/-- Two thirds of the votes exactly, and one vote less. -/
example : classify 2863311530 1431655765 = .good ∧ classify 2863311529 1431655766 = .neutral := by
  decide +kernel

theorem classify_swap {up down : Nat} (upSmall : up < 2 ^ 32) (downSmall : down < 2 ^ 32) :
    classify down up = (classify up down).opposite := by
  rw [classify_eq upSmall downSmall, classify_eq downSmall upSmall]
  by_cases good : IsSettled up down
  · rw [if_pos good, if_neg good.not_swap, if_pos good]
    rfl
  · rw [if_neg good, if_neg good]
    split <;> rfl

/-- Both counts are reported, and the first of them settles the verdict. -/
def HasMajority (part other : Option UInt32) : Prop :=
  ∃ count otherCount, part = some count ∧ other = some otherCount ∧
    IsSettled count.toNat otherCount.toNat

theorem hasMajority_some_iff {count otherCount : UInt32} :
    HasMajority (some count) (some otherCount) ↔ IsSettled count.toNat otherCount.toNat := by
  simp [HasMajority]

theorem not_hasMajority_of_none {part other : Option UInt32} (absent : part = none ∨ other = none) :
    ¬ HasMajority part other := by
  rintro ⟨count, otherCount, rfl, rfl, _⟩
  rcases absent with missing | missing <;> cases missing

def swapVotes (ratings : UserRatings) : UserRatings :=
  { ratings with upVotes := ratings.downVotes, downVotes := ratings.upVotes }

theorem voteClass_eq_neutral_of_none {ratings : UserRatings}
    (absent : ratings.upVotes = none ∨ ratings.downVotes = none) : ratings.voteClass = .neutral := by
  unfold voteClass
  split
  · rename_i up down upKnown downKnown
    rw [upKnown, downKnown] at absent
    rcases absent with missing | missing <;> cases missing
  · rfl

theorem voteClass_of_some {ratings : UserRatings} {up down : UInt32}
    (upKnown : ratings.upVotes = some up) (downKnown : ratings.downVotes = some down) :
    ratings.voteClass = classify up.toNat down.toNat := by
  unfold voteClass
  rw [upKnown, downKnown]

/-- The verdict is good or bad exactly where one side has two thirds of at least five votes, whatever
the counts are, and goes to the other side with the counts. -/
theorem voteClass_by_majority (ratings : UserRatings) :
    (ratings.voteClass = .good ↔ HasMajority ratings.upVotes ratings.downVotes) ∧
    (ratings.voteClass = .bad ↔ HasMajority ratings.downVotes ratings.upVotes) ∧
    (ratings.voteClass = .neutral ↔ ¬ HasMajority ratings.upVotes ratings.downVotes ∧
      ¬ HasMajority ratings.downVotes ratings.upVotes) ∧
    (∀ up down : UInt32, (up.toUInt64 + down.toUInt64).toNat = up.toNat + down.toNat) ∧
    ratings.swapVotes.voteClass = ratings.voteClass.opposite := by
  have sums (up down : UInt32) : (up.toUInt64 + down.toUInt64).toNat = up.toNat + down.toNat := by
    have upSmall := up.toNat_lt
    have downSmall := down.toNat_lt
    rw [UInt64.toNat_add, UInt32.toNat_toUInt64, UInt32.toNat_toUInt64]
    exact Nat.mod_eq_of_lt (by omega)
  by_cases absent : ratings.upVotes = none ∨ ratings.downVotes = none
  · have swapped : ratings.swapVotes.voteClass = .neutral :=
      voteClass_eq_neutral_of_none absent.symm
    have noGood := not_hasMajority_of_none absent
    have noBad := not_hasMajority_of_none absent.symm
    rw [voteClass_eq_neutral_of_none absent, swapped]
    exact ⟨iff_of_false VoteClass.noConfusion noGood, iff_of_false VoteClass.noConfusion noBad,
      iff_of_true rfl ⟨noGood, noBad⟩, sums, rfl⟩
  · obtain ⟨upReported, downReported⟩ := not_or.mp absent
    obtain ⟨up, upKnown⟩ := Option.ne_none_iff_exists'.mp upReported
    obtain ⟨down, downKnown⟩ := Option.ne_none_iff_exists'.mp downReported
    have swapped : ratings.swapVotes.voteClass = classify down.toNat up.toNat :=
      voteClass_of_some downKnown upKnown
    have counted := classify_eq up.toNat_lt down.toNat_lt
    rw [swapped, classify_swap up.toNat_lt down.toNat_lt, voteClass_of_some upKnown downKnown,
      upKnown, downKnown, hasMajority_some_iff, hasMajority_some_iff, counted]
    by_cases good : IsSettled up.toNat down.toNat
    · simp [good, good.not_swap, sums]
    · by_cases bad : IsSettled down.toNat up.toNat <;> simp [good, bad, sums]

end UserRatings

end Curator
