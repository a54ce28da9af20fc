/-! Sets of characters given as ranges of code points. -/
namespace Curator.Text

abbrev CodePointRanges := List (Nat × Nat)

def CodePointRanges.holds (ranges : CodePointRanges) (character : Char) : Bool :=
  ranges.any fun range => range.1 ≤ character.toNat && character.toNat ≤ range.2

theorem CodePointRanges.holds_iff (ranges : CodePointRanges) (character : Char) :
    ranges.holds character = true ↔
      ∃ range ∈ ranges, range.1 ≤ character.toNat ∧ character.toNat ≤ range.2 := by
  simp [CodePointRanges.holds, List.any_eq_true]

end Curator.Text
