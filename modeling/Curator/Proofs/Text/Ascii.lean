import Curator.Text.Basic

/-! Characters of ASCII by their code points: digits and letters, which are no white space, and what
the small form of a character says about it. -/
namespace Curator.Text

/-- White space lies outside of the digits and of the letters of ASCII. -/
theorem isWhiteSpace_of_bounds {character : Char}
    (bounds : 48 ≤ character.toNat ∧ character.toNat ≤ 57 ∨
      65 ≤ character.toNat ∧ character.toNat ≤ 122) : isWhiteSpace character = false := by
  rw [← Bool.not_eq_true, isWhiteSpace, CodePointRanges.holds_iff]
  rintro ⟨range, member, lower, upper⟩
  have apart : ∀ range ∈ whiteSpaceRanges,
      range.2 < 48 ∨ 57 < range.1 ∧ range.2 < 65 ∨ 122 < range.1 := by decide
  have := apart range member
  omega

theorem toNat_bounds_of_isDigit {character : Char} (digit : character.isDigit = true) :
    48 ≤ character.toNat ∧ character.toNat ≤ 57 := by
  simpa [Char.isDigit, UInt32.le_iff_toNat_le] using digit

theorem isWhiteSpace_of_isDigit {character : Char} (digit : character.isDigit = true) :
    isWhiteSpace character = false :=
  isWhiteSpace_of_bounds (.inl (toNat_bounds_of_isDigit digit))

theorem toNat_bounds_of_isAlpha {character : Char} (letter : character.isAlpha = true) :
    65 ≤ character.toNat ∧ character.toNat ≤ 122 := by
  rcases Bool.or_eq_true_iff.mp letter with capital | small
  · obtain ⟨low, high⟩ := of_decide_eq_true capital
    have low : 65 ≤ character.toNat := UInt32.le_iff_toNat_le.mp low
    have high : character.toNat ≤ 90 := UInt32.le_iff_toNat_le.mp high
    omega
  · obtain ⟨low, high⟩ := Bool.and_eq_true_iff.mp small
    have low : 97 ≤ character.toNat := UInt32.le_iff_toNat_le.mp (of_decide_eq_true low)
    have high : character.toNat ≤ 122 := UInt32.le_iff_toNat_le.mp (of_decide_eq_true high)
    omega

theorem isWhiteSpace_of_isAlpha {character : Char} (letter : character.isAlpha = true) :
    isWhiteSpace character = false :=
  isWhiteSpace_of_bounds (.inr (toNat_bounds_of_isAlpha letter))

/-- A character is its own small form, or it is the capital letter 32 places in front of it. -/
theorem eq_or_capital_of_toLower {character small : Char} (lowered : character.toLower = small) :
    character = small ∨
      65 ≤ character.toNat ∧ character.toNat ≤ 90 ∧ character.toNat + 32 = small.toNat := by
  by_cases isCapital : 'A'.val ≤ character.val ∧ character.val ≤ 'Z'.val
  · have low : 65 ≤ character.toNat := UInt32.le_iff_toNat_le.mp isCapital.1
    have high : character.toNat ≤ 90 := UInt32.le_iff_toNat_le.mp isCapital.2
    have codes : small.val = character.val + ('a'.val - 'A'.val) :=
      (congrArg Char.val lowered).symm.trans (congrArg Char.val (dif_pos isCapital))
    have sum : small.toNat = (character.toNat + 32) % 2 ^ 32 :=
      (congrArg UInt32.toNat codes).trans (UInt32.toNat_add _ _)
    refine .inr ⟨low, high, ?_⟩
    omega
  · exact .inl ((dif_neg isCapital).symm.trans lowered)

end Curator.Text
