import Curator.Time.Timestamp
import Mathlib.Data.Prod.Lex

/-! Instants in the order of time, which the comparisons of the library follow. -/
namespace Curator.Timestamp

/-- Second and nanosecond, the second counting first. -/
def rank (instant : Timestamp) : Int ×ₗ Nat :=
  toLex (instant.seconds, instant.nanos)

theorem rank_injective : Function.Injective rank := by
  intro left right same
  have parts : (left.seconds, left.nanos) = (right.seconds, right.nanos) := toLex.injective same
  simp only [Prod.mk.injEq] at parts
  exact ext_iff.mpr parts

instance : LinearOrder Timestamp :=
  LinearOrder.lift' rank rank_injective

theorem lt_iff {left right : Timestamp} :
    left < right ↔
      left.seconds < right.seconds ∨ left.seconds = right.seconds ∧ left.nanos < right.nanos := by
  change toLex (left.seconds, left.nanos) < toLex (right.seconds, right.nanos) ↔ _
  rw [Prod.Lex.toLex_lt_toLex]

theorem before_iff_lt {left right : Timestamp} : left.before right = true ↔ left < right := by
  simp [before, lt_iff]

end Curator.Timestamp
