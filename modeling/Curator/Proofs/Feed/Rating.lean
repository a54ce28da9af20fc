import Curator.Feed.Rating
import Curator.Proofs.Number.Fraction

/-! Ratings on a scale from 0 to 1. The span of a scale is a number other than zero whatever its
top, so that every quotient stands for a rational, which is moved into the range. -/
namespace Curator

namespace Binary64

/-- The number stands for a rational from 0 to 1. -/
def IsShare (number : Binary64) : Prop :=
  ∃ value, number.toRational? = some value ∧ 0 ≤ value ∧ value ≤ 1

end Binary64

namespace Rating

open Binary64

theorem one_le_span (ceiling : UInt32) : 1 ≤ span ceiling := by
  unfold span
  omega

theorem span_lt (ceiling : UInt32) : span ceiling < 4294967296 := by
  have small := ceiling.toNat_lt
  unfold span
  omega

/-- The span of a scale is exactly the number that it is converted to. -/
theorem toRational?_span (ceiling : UInt32) :
    (Binary64.ofInteger (span ceiling)).toRational? = some (span ceiling : Rat) :=
  toRational?_ofInteger_natCast ((span_lt ceiling).trans (by decide))

theorem span_ne_zero (ceiling : UInt32) : (span ceiling : Rat) ≠ 0 :=
  Nat.cast_ne_zero.mpr (Nat.pos_iff_ne_zero.mp (one_le_span ceiling))

theorem steps?_eq_some_iff {value steps : Int} :
    steps? value = some steps ↔
      (-9223372036854775808 ≤ value - 1 ∧ value - 1 ≤ 9223372036854775807) ∧ value - 1 = steps := by
  rw [steps?, Option.ite_none_right_eq_some, Option.some.injEq]

theorem abs_steps_le {value steps : Int} (counted : steps? value = some steps) :
    |(steps : Rat)| ≤ twoTo 63 := by
  obtain ⟨inRange, rfl⟩ := steps?_eq_some_iff.mp counted
  have bounded : |value - 1| ≤ 2 ^ 63 := by
    rw [abs_le]
    omega
  calc |((value - 1 : Int) : Rat)| = ((|value - 1| : Int) : Rat) := (Int.cast_abs).symm
    _ ≤ ((2 ^ 63 : Int) : Rat) := Int.cast_le.mpr bounded
    _ = twoTo 63 := (twoTo_natCast 63).symm

/-- Where a rating stands on the scale: the steps to it, rounded, as a part of all steps, rounded
again and moved into the range. -/
def place (ceiling : UInt32) (value : Int) : Rat :=
  min (max (nearest (nearest (value - 1 : Int) / span ceiling)) 0) 1

theorem toRational?_normalize {ceiling : UInt32} {value : Int} {number : Binary64}
    (found : normalize? ceiling value = some number) :
    number.toRational? = some (place ceiling value) := by
  obtain ⟨steps, counted, rfl⟩ := Option.map_eq_some_iff.mp found
  have small := abs_steps_le counted
  obtain ⟨_, rfl⟩ := steps?_eq_some_iff.mp counted
  have wide : twoTo 63 ≤ twoTo 1023 := twoTo_le_twoTo_iff.mpr (by decide)
  have oneLe : (1 : Rat) ≤ span ceiling := by exact_mod_cast one_le_span ceiling
  have quotient : |nearest (value - 1 : Int) / (span ceiling : Rat)| ≤ twoTo 63 := by
    rw [abs_div, abs_of_nonneg (zero_le_one.trans oneLe)]
    calc |nearest (value - 1 : Int)| / span ceiling
        ≤ |nearest (value - 1 : Int)| := div_le_self (abs_nonneg _) oneLe
      _ ≤ twoTo 63 := abs_nearest_le_twoTo (by decide) small
  refine toRational?_clamp (toRational?_divide (toRational?_ofInteger (small.trans wide))
    (toRational?_span ceiling) (span_ne_zero ceiling) ?_)
  calc |nearest (nearest (value - 1 : Int) / span ceiling)|
      ≤ twoTo 63 := abs_nearest_le_twoTo (by decide) quotient
    _ < twoTo 1024 := twoTo_lt_twoTo_iff.mpr (by decide)

theorem place_bounds (ceiling : UInt32) (value : Int) :
    0 ≤ place ceiling value ∧ place ceiling value ≤ 1 :=
  ⟨le_min (le_max_right _ _) zero_le_one, min_le_right _ _⟩

theorem isShare_read {text : Option (List Char)} {ceiling : UInt32} {rating : Binary64}
    (found : read text ceiling = .ok (some rating)) : rating.IsShare := by
  unfold read at found
  split at found
  · split at found
    · rename_i value _
      cases known : normalize? ceiling value with
      | none =>
        rw [known] at found
        cases found
      | some place =>
        rw [known] at found
        obtain rfl : place = rating := Option.some.inj (Except.ok.inj found)
        exact ⟨_, toRational?_normalize known, place_bounds ceiling value⟩
    · cases found
  · cases found

/-- A value is left out, or is blank, or is a dash. -/
def SaysNothing (text : Option (List Char)) : Prop :=
  ∀ written, text = some written → Text.trim written = [] ∨ Text.trim written = ['-']

theorem isAbsent_iff (text : List Char) :
    isAbsent text = true ↔ Text.trim text = [] ∨ Text.trim text = ['-'] := by
  unfold isAbsent
  rw [Bool.or_eq_true, List.isEmpty_iff, beq_iff_eq]

theorem stated?_eq_none_iff {text : Option (List Char)} :
    stated? text = none ↔ SaysNothing text := by
  cases text with
  | none => exact iff_of_true rfl fun _ impossible => absurd impossible (by simp)
  | some written =>
    simp only [stated?, SaysNothing, Option.some.injEq, forall_eq', ← isAbsent_iff]
    cases isAbsent written <;> simp

/-- What is read of a value that says something is not absent. -/
private theorem map_some_ne_ok_none {ε α β : Type} (outcome : Except ε α) (place : α → β) :
    (outcome.map fun value => some (place value)) ≠ .ok none := by
  cases outcome <;> simp [Except.map]

/-- A count that is read is absent exactly where the value says nothing. -/
theorem readCount_eq_ok_none_iff {text : Option (List Char)} :
    readCount text = .ok none ↔ SaysNothing text := by
  rw [← stated?_eq_none_iff]
  unfold readCount
  split
  · rename_i known
    rw [known]
    exact iff_of_false (map_some_ne_ok_none _ _) (Option.some_ne_none _)
  · rename_i known
    exact iff_of_true rfl known

theorem read_eq_ok_none_iff {text : Option (List Char)} {ceiling : UInt32} :
    read text ceiling = .ok none ↔ SaysNothing text := by
  rw [← stated?_eq_none_iff]
  unfold read
  split
  · rename_i stated known
    rw [known]
    refine iff_of_false ?_ (Option.some_ne_none _)
    cases Text.readSigned 9223372036854775808 stated with
    | error error => simp
    | ok value =>
      dsimp only
      cases normalize? ceiling value <;> simp
  · rename_i known
    exact iff_of_true rfl known

end Rating

end Curator
