import Curator.Proofs.Time.Order

/-! Instants moved by an amount of time. Adding a longer time to one instant leads further. Adding
the same time to a later instant leads further too, unless a leap second comes between: additions
take a leap second for the second before it, so that the clock runs through this second twice. -/
namespace Curator.Timestamp

theorem le_iff {left right : Timestamp} :
    left ≤ right ↔
      left.seconds < right.seconds ∨ left.seconds = right.seconds ∧ left.nanos ≤ right.nanos := by
  change toLex (left.seconds, left.nanos) ≤ toLex (right.seconds, right.nanos) ↔ _
  rw [Prod.Lex.toLex_le_toLex]

/-- Nanoseconds since 1970-01-01 by which additions go: a leap second repeats the second before
it. -/
def plainPosition (instant : Timestamp) : Int :=
  if instant.isLeap then instant.position - 1000000000 else instant.position

theorem ofPosition_le_ofPosition {left right : Int} (ordered : left ≤ right) :
    ofPosition left ≤ ofPosition right := by
  rw [le_iff]
  simp only [ofPosition]
  omega

theorem add_stays (instant : Timestamp) {amount : Int} (nonneg : 0 ≤ amount)
    (leap : 1000000000 ≤ instant.nanos) (short : instant.nanos + amount < 2000000000) :
    (instant.add amount).seconds = instant.seconds ∧
      ((instant.add amount).nanos : Int) = instant.nanos + amount := by
  have stays : amount.tdiv 1000000000 = 0 ∧ instant.nanos + amount < 2000000000 := by
    rw [Int.tdiv_eq_ediv_of_nonneg nonneg]
    omega
  rw [add, dif_pos leap, dif_pos stays]
  refine ⟨rfl, ?_⟩
  simp only
  omega

/-- Time that leads out of a leap second leads to where it does from the second before. -/
theorem add_leaves (instant : Timestamp) {amount : Int} (nonneg : 0 ≤ amount)
    (long : 1000000000 ≤ instant.nanos → 2000000000 ≤ instant.nanos + amount) :
    instant.add amount = ofPosition (instant.plainPosition + amount) := by
  by_cases leap : 1000000000 ≤ instant.nanos
  · have goes : ¬(amount.tdiv 1000000000 = 0 ∧ instant.nanos + amount < 2000000000) :=
      fun stays => by
        have far := long leap
        omega
    have forward : 0 < amount := by
      have far := long leap
      have bound := instant.nanos_lt
      omega
    simp only [add, leap, goes, forward, plainPosition, isLeap, dif_pos, dif_neg, if_pos,
      decide_true, not_false_eq_true]
  · simp [add, leap, plainPosition, isLeap]

theorem add_le_add (instant : Timestamp) {less more : Int} (nonneg : 0 ≤ less)
    (longer : less ≤ more) : instant.add less ≤ instant.add more := by
  have nonnegMore : 0 ≤ more := Int.le_trans nonneg longer
  by_cases near : 1000000000 ≤ instant.nanos ∧ instant.nanos + less < 2000000000
  · obtain ⟨seconds, nanos⟩ := instant.add_stays nonneg near.1 near.2
    by_cases nearToo : instant.nanos + more < 2000000000
    · obtain ⟨secondsToo, nanosToo⟩ := instant.add_stays nonnegMore near.1 nearToo
      rw [le_iff]
      omega
    · -- The longer time leads out of the leap second, and so into a later second.
      rw [instant.add_leaves nonnegMore fun _ => Int.not_lt.mp nearToo, le_iff]
      simp only [ofPosition, plainPosition, isLeap, near.1, position, decide_true, if_true]
      omega
  · have far : 1000000000 ≤ instant.nanos → 2000000000 ≤ instant.nanos + less := by
      omega
    rw [instant.add_leaves nonneg far,
      instant.add_leaves nonnegMore fun leap => Int.le_trans (far leap) (by omega)]
    exact ofPosition_le_ofPosition (by omega)

/-- A second or more leads further from a later instant, a leap second counting as the second
before it. -/
theorem add_le_add_of_plainPosition_le {left right : Timestamp} {less more : Int}
    (ordered : left.plainPosition ≤ right.plainPosition) (long : 1000000000 ≤ less)
    (longer : less ≤ more) : left.add less ≤ right.add more := by
  rw [left.add_leaves (by omega) (by omega), right.add_leaves (by omega) (by omega)]
  exact ofPosition_le_ofPosition (by omega)

end Curator.Timestamp
