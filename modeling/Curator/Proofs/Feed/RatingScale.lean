import Curator.Proofs.Feed.Rating

/-! The scale of ratings. Whatever its top, a rating of 1 or less stands at 0, one at the top or
above it at 1, and the places between are different doubles in the same order. Only the least number
that can be read stands nowhere: no steps can be counted from it, and whoever reads it breaks down.
-/
namespace Curator

theorem Text.bounds_of_readSigned {bound : Nat} {text : List Char} {value : Int}
    (positive : 0 < bound) (found : Text.readSigned bound text = .ok value) :
    -(bound : Int) ≤ value ∧ value < bound := by
  have within {limit : Nat} {overflow : Text.IntegerError} {digits : List Char} {magnitude : Nat}
      (counted : Text.readDigits limit overflow 0 digits = .ok magnitude) : magnitude ≤ limit :=
    ((Text.readDigits_eq_ok_iff (Nat.zero_le limit)).mp counted).2.2
  have nonneg {digits : List Char}
      (counted : (Text.readDigits (bound - 1) .tooLarge 0 digits).map Int.ofNat = .ok value) :
      -(bound : Int) ≤ value ∧ value < bound := by
    cases known : Text.readDigits (bound - 1) .tooLarge 0 digits with
    | error reason =>
      rw [known] at counted
      cases counted
    | ok magnitude =>
      rw [known] at counted
      obtain rfl : (magnitude : Int) = value := Except.ok.inj counted
      have := within known
      omega
  unfold Text.readSigned at found
  split at found
  · cases found
  · cases found
  · cases found
  · exact nonneg found
  · rename_i digits _
    cases known : Text.readDigits bound .tooSmall 0 digits with
    | error reason =>
      rw [known] at found
      cases found
    | ok magnitude =>
      rw [known] at found
      obtain rfl : -(magnitude : Int) = value := Except.ok.inj found
      have := within known
      omega
  · exact nonneg found

namespace Rating

open Binary64

def leastValue : Int := -9223372036854775808

def greatestValue : Int := 9223372036854775807

/-- The top of a scale, which has at least two places. -/
def top (ceiling : UInt32) : Int :=
  (max ceiling.toNat 2 : Nat)

/-- A text holds a number of 64 bits, which may have white space around it. -/
def ReadsAs (text : List Char) (value : Int) : Prop :=
  Text.readSigned 9223372036854775808 (Text.trim text) = .ok value

instance (text : List Char) (value : Int) : Decidable (ReadsAs text value) :=
  inferInstanceAs (Decidable (_ = _))

/-- A text is read as a rating that stands at a place from 0 to 1. -/
def StandsAt (text : List Char) (ceiling : UInt32) (place : Rat) : Prop :=
  ∃ rating, read (some text) ceiling = .ok (some rating) ∧ rating.toRational? = some place

theorem ReadsAs.bounds {text : List Char} {value : Int} (reads : ReadsAs text value) :
    leastValue ≤ value ∧ value ≤ greatestValue := by
  have bounds := Text.bounds_of_readSigned (by decide) reads
  unfold leastValue greatestValue
  omega

theorem eq_trim_of_stated? {text : Option (List Char)} {stated : List Char}
    (known : stated? text = some stated) :
    ∃ written, text = some written ∧ Text.trim written = stated := by
  cases text with
  | none => cases known
  | some written =>
    rw [stated?, Option.ite_none_left_eq_some] at known
    exact ⟨written, rfl, Option.some.inj known.2⟩

theorem ReadsAs.stated {text : List Char} {value : Int} (reads : ReadsAs text value) :
    stated? (some text) = some (Text.trim text) := by
  unfold ReadsAs at reads
  have present : isAbsent text = false := by
    rw [Bool.eq_false_iff, ne_eq, isAbsent_iff]
    rintro (blank | dash)
    · rw [blank] at reads
      cases reads
    · rw [dash] at reads
      cases reads
  rw [stated?, present]
  rfl

theorem ReadsAs.read_eq {text : List Char} {value : Int} (reads : ReadsAs text value)
    (ceiling : UInt32) :
    read (some text) ceiling =
      match normalize? ceiling value with
      | some place => .ok (some place)
      | none => .error .crashed := by
  have known : Text.readSigned 9223372036854775808 (Text.trim text) = .ok value := reads
  cases placed : normalize? ceiling value <;> simp only [read, reads.stated, known, placed]

theorem steps?_leastValue : steps? leastValue = none := by
  decide

theorem steps?_eq {value : Int} (low : leastValue < value) (high : value ≤ greatestValue) :
    steps? value = some (value - 1) := by
  unfold leastValue greatestValue at *
  exact steps?_eq_some_iff.mpr ⟨by omega, rfl⟩

/-- Every number but the least one stands somewhere on the scale. -/
theorem ReadsAs.standsAt {text : List Char} {value : Int} (reads : ReadsAs text value)
    (other : value ≠ leastValue) (ceiling : UInt32) :
    StandsAt text ceiling (place ceiling value) := by
  have known := steps?_eq (lt_of_le_of_ne reads.bounds.1 other.symm) reads.bounds.2
  have placed : ∃ number, normalize? ceiling value = some number := by
    rw [normalize?, known]
    exact ⟨_, rfl⟩
  obtain ⟨number, placed⟩ := placed
  refine ⟨number, ?_, toRational?_normalize placed⟩
  rw [reads.read_eq, placed]

theorem ReadsAs.crashes {text : List Char} (reads : ReadsAs text leastValue) (ceiling : UInt32) :
    read (some text) ceiling = .error .crashed := by
  rw [reads.read_eq, normalize?, steps?_leastValue]
  rfl

theorem read_eq_crashed_iff {text : Option (List Char)} {ceiling : UInt32} :
    read text ceiling = .error .crashed ↔
      ∃ written, text = some written ∧ ReadsAs written leastValue := by
  constructor
  · intro crashed
    cases known : stated? text with
    | none =>
      rw [read, known] at crashed
      cases crashed
    | some stated =>
      obtain ⟨written, rfl, rfl⟩ := eq_trim_of_stated? known
      refine ⟨written, rfl, ?_⟩
      cases found : Text.readSigned 9223372036854775808 (Text.trim written) with
      | error reason =>
        rw [read, known] at crashed
        dsimp only at crashed
        rw [found] at crashed
        cases crashed
      | ok value =>
        have reads : ReadsAs written value := found
        by_cases least : value = leastValue
        · rwa [least] at reads
        · obtain ⟨rating, placed, _⟩ := reads.standsAt least ceiling
          cases crashed.symm.trans placed
  · rintro ⟨written, rfl, reads⟩
    exact reads.crashes ceiling

theorem place_eq_zero {ceiling : UInt32} {value : Int} (down : value ≤ 1) :
    place ceiling value = 0 := by
  have stepsDown : nearest (value - 1 : Int) ≤ 0 := by
    calc nearest (value - 1 : Int)
        ≤ nearest 0 := nearest_mono (by exact_mod_cast sub_nonpos.mpr down)
      _ = 0 := nearest_zero
  have quotientDown : nearest (nearest (value - 1 : Int) / (span ceiling : Rat)) ≤ 0 := by
    calc nearest (nearest (value - 1 : Int) / (span ceiling : Rat))
        ≤ nearest 0 := nearest_mono (div_nonpos_of_nonpos_of_nonneg stepsDown (Nat.cast_nonneg _))
      _ = 0 := nearest_zero
  rw [place, max_eq_right quotientDown, min_eq_left zero_le_one]

theorem top_eq (ceiling : UInt32) : top ceiling = span ceiling + 1 := by
  unfold top span
  omega

theorem place_eq_one {ceiling : UInt32} {value : Int} (up : top ceiling ≤ value) :
    place ceiling value = 1 := by
  have spanPositive : (0 : Rat) < span ceiling := Nat.cast_pos.mpr (one_le_span ceiling)
  have steps : (span ceiling : Int) ≤ value - 1 := by
    rw [top_eq] at up
    omega
  have stepsUp : (span ceiling : Rat) ≤ nearest (value - 1 : Int) := by
    calc (span ceiling : Rat)
        = nearest (span ceiling) := (nearest_natCast ((span_lt ceiling).trans (by decide))).symm
      _ ≤ nearest (value - 1 : Int) := nearest_mono (by exact_mod_cast steps)
  have quotientUp : 1 ≤ nearest (nearest (value - 1 : Int) / (span ceiling : Rat)) := by
    calc (1 : Rat) = nearest 1 := nearest_one.symm
      _ ≤ nearest (nearest (value - 1 : Int) / span ceiling) :=
        nearest_mono ((one_le_div spanPositive).mpr stepsUp)
  rw [place, max_eq_left (zero_le_one.trans quotientUp), min_eq_right quotientUp]

/-- Within the scale, a rating stands at the double nearest to its part of the steps. -/
theorem place_succ {ceiling : UInt32} {count : Nat} (within : count ≤ span ceiling) :
    place ceiling (count + 1) = nearest ((count : Rat) / span ceiling) := by
  have small : count < 2 ^ 53 := by
    have := span_lt ceiling
    omega
  have bounded := abs_nearest_le_one (abs_div_le_one within)
  have nonneg : 0 ≤ nearest ((count : Rat) / span ceiling) :=
    nearest_nonneg (div_nonneg (Nat.cast_nonneg _) (Nat.cast_nonneg _))
  rw [place, add_sub_cancel_right, Int.cast_natCast, nearest_natCast small, max_eq_left nonneg,
    min_eq_left ((le_abs_self _).trans bounded)]

theorem place_lt_place {ceiling : UInt32} {value other : Int} (low : 1 ≤ value)
    (below : value < other) (high : other ≤ top ceiling) :
    place ceiling value < place ceiling other := by
  have placed {value : Int} (low : 1 ≤ value) (high : value ≤ top ceiling) :
      ∃ count : Nat, value = count + 1 ∧ count ≤ span ceiling := by
    obtain ⟨count, counted⟩ := Int.eq_ofNat_of_zero_le (sub_nonneg.mpr low)
    rw [top_eq] at high
    exact ⟨count, by omega, by omega⟩
  obtain ⟨count, rfl, inside⟩ := placed low (by omega)
  obtain ⟨otherCount, rfl, within⟩ := placed (by omega) high
  rw [place_succ inside, place_succ within]
  exact nearest_div_lt_nearest_div (by omega) within ((span_lt ceiling).trans (by decide))

theorem place_eq_zero_iff {ceiling : UInt32} {value : Int} :
    place ceiling value = 0 ↔ value ≤ 1 := by
  refine ⟨fun isZero => ?_, place_eq_zero⟩
  by_contra above
  rw [not_le] at above
  have positive : 0 < place ceiling value := by
    rcases lt_or_ge value (top ceiling) with below | reached
    · calc (0 : Rat) = place ceiling 1 := (place_eq_zero le_rfl).symm
        _ < place ceiling value := place_lt_place le_rfl above below.le
    · rw [place_eq_one reached]
      exact zero_lt_one
  exact positive.ne' isZero

theorem place_eq_one_iff {ceiling : UInt32} {value : Int} :
    place ceiling value = 1 ↔ top ceiling ≤ value := by
  refine ⟨fun isOne => ?_, place_eq_one⟩
  by_contra below
  rw [not_le] at below
  have small : place ceiling value < 1 := by
    rcases le_or_gt value 1 with bottom | above
    · rw [place_eq_zero bottom]
      exact zero_lt_one
    · calc place ceiling value < place ceiling (top ceiling) := place_lt_place above.le below le_rfl
        _ = 1 := place_eq_one le_rfl
  exact small.ne isOne

/-- Ratings follow the scale of their source, except for the least number that can be read, which
breaks the reading: they stand at 0 up to 1, at 1 from the top on, and at increasing places between.
The steps to every other number can be counted, and there is always a step to divide by. -/
theorem read_on_scale (ceiling : UInt32) :
    ∃ share : Int → Rat,
      (∀ text value, ReadsAs text value →
        leastValue ≤ value ∧ value ≤ greatestValue ∧
          (value ≠ leastValue → StandsAt text ceiling (share value)) ∧
          (value = leastValue → read (some text) ceiling = .error .crashed)) ∧
      (∀ value, 0 ≤ share value ∧ share value ≤ 1) ∧
      (∀ value, (share value = 0 ↔ value ≤ 1) ∧ (share value = 1 ↔ top ceiling ≤ value)) ∧
      (∀ value, leastValue < value → value ≤ greatestValue → steps? value = some (value - 1)) ∧
      (∀ value other, 1 ≤ value → value < other → other ≤ top ceiling →
        share value < share other) ∧
      0 < span ceiling ∧
      (Binary64.ofInteger (span ceiling)).toRational? = some ((top ceiling - 1 : Int) : Rat) := by
  refine ⟨place ceiling, ?_, place_bounds ceiling,
    fun value => ⟨place_eq_zero_iff, place_eq_one_iff⟩, fun value => steps?_eq,
    fun _ _ => place_lt_place, one_le_span ceiling, ?_⟩
  · intro text value reads
    refine ⟨reads.bounds.1, reads.bounds.2, fun other => reads.standsAt other ceiling, ?_⟩
    rintro rfl
    exact reads.crashes ceiling
  · rw [toRational?_span, top_eq, add_sub_cancel_right, Int.cast_natCast]

/-- Two ratings on a scale from 1 to 10, the better one at its top. -/
theorem read_on_scale_to_ten :
    ∃ worse better : Rat, StandsAt " 4\t".toList 10 worse ∧ StandsAt "+10".toList 10 better ∧
      0 < worse ∧ worse < better ∧ better = 1 := by
  obtain ⟨share, placed, bounds, ends, _, increasing, _⟩ := read_on_scale 10
  have worse := (placed " 4\t".toList 4 (by decide +kernel)).2.2.1 (by decide)
  have better := (placed "+10".toList 10 (by decide +kernel)).2.2.1 (by decide)
  refine ⟨share 4, share 10, worse, better, ?_, ?_, (ends 10).2.mpr (by decide)⟩
  · exact lt_of_le_of_ne (bounds 4).1 fun isZero => absurd ((ends 4).1.mp isZero.symm) (by decide)
  · exact increasing 4 10 (by decide) (by decide) (by decide)

/-- The least rating is below the scale, and is not read as its bottom. -/
theorem read_breaks_on_least :
    ReadsAs "-9223372036854775808".toList leastValue ∧ leastValue ≤ 1 ∧
      steps? leastValue = none ∧
      read (some "-9223372036854775808".toList) 10 = .error .crashed ∧
      ¬∃ place, StandsAt "-9223372036854775808".toList 10 place := by
  have crashes : read (some "-9223372036854775808".toList) 10 = .error .crashed := by
    decide +kernel
  refine ⟨by decide +kernel, by decide, by decide, crashes, ?_⟩
  rintro ⟨place, rating, found, _⟩
  cases crashes.symm.trans found

end Rating

end Curator
