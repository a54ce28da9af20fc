import Curator.Proofs.Health.History
import Curator.Proofs.Time.Order

/-! What holds of every record at all times, whatever was noted about the sources: the level stays
in its bounds, and a source is left alone for as long as its level says after the last failure. -/
namespace Curator

namespace SourceStatus

/-- What the parts of a record say together. -/
structure Consistent (status : SourceStatus) : Prop where
  level_le : status.level ≤ highestLevel
  enabled_of_level_zero : status.level = 0 → status.disabledUntil = none
  initialFailure_isSome : 1 ≤ status.level → status.initialFailure.isSome = true
  mostRecentFailure_isSome : 1 ≤ status.level → status.mostRecentFailure.isSome = true
  disabledUntil_eq : ∀ until_, status.disabledUntil = some until_ →
    ∃ failure, status.mostRecentFailure = some failure ∧
      until_ = failure.add (backoffNanos status.level)

/-- Where both are known, the failures began no later than the last of them. -/
def FailuresInOrder (status : SourceStatus) : Prop :=
  ∀ first last, status.initialFailure = some first → status.mostRecentFailure = some last →
    first ≤ last

/-- The failures began no later than at an instant. -/
def FailedBy (now : Timestamp) (status : SourceStatus) : Prop :=
  ∀ first, status.initialFailure = some first → first ≤ now

theorem consistent_fresh (id : Int) : Consistent { sourceId := id } where
  level_le := Nat.zero_le _
  enabled_of_level_zero _ := rfl
  initialFailure_isSome failed := by simp at failed
  mostRecentFailure_isSome failed := by simp at failed
  disabledUntil_eq _ disabled := by simp at disabled

end SourceStatus

theorem le_raiseLevel (minimum level : Nat) : level ≤ raiseLevel minimum level := by
  fun_induction raiseLevel minimum level with
  | case1 level _ ih => omega
  | case2 level _ => exact Nat.le_refl _

theorem raiseLevel_le (minimum level : Nat) (bounded : level ≤ highestLevel) :
    raiseLevel minimum level ≤ highestLevel := by
  fun_induction raiseLevel minimum level with
  | case1 level below ih => exact ih below.1
  | case2 level _ => exact bounded

theorem levelAbove_le (level : Nat) : levelAbove level ≤ highestLevel :=
  Nat.min_le_right _ _

theorem one_le_levelAbove (level : Nat) : 1 ≤ levelAbove level := by
  simp only [levelAbove, highestLevel]
  omega

theorem le_levelAbove {level : Nat} (bounded : level ≤ highestLevel) : level ≤ levelAbove level :=
  Nat.le_min.mpr ⟨Nat.le_succ level, bounded⟩

namespace SourceStatus

theorem escalate?_eq_escalate {status : SourceStatus} (bounded : status.level ≤ highestLevel)
    (now : Timestamp) (minimum : Nat) :
    status.escalate? now minimum = some (status.escalate now minimum) := by
  unfold highestLevel at bounded
  exact escalate?_eq_some_iff.mpr ⟨by omega, rfl⟩

theorem Consistent.escalate {status : SourceStatus} (consistent : status.Consistent)
    (now : Timestamp) (minimum : Nat) : (status.escalate now minimum).Consistent := by
  have raised := le_raiseLevel minimum (levelAbove status.level)
  have above := one_le_levelAbove status.level
  have positive : (status.escalate now minimum).level ≠ 0 := by
    simp only [SourceStatus.escalate]
    omega
  exact {
    level_le := raiseLevel_le minimum _ (levelAbove_le status.level)
    enabled_of_level_zero := fun zero => absurd zero positive
    initialFailure_isSome := by
      intro _
      by_cases first : status.level = 0
      · simp [SourceStatus.escalate, first]
      · simpa [SourceStatus.escalate, first] using consistent.initialFailure_isSome (by omega)
    mostRecentFailure_isSome := fun _ => rfl
    disabledUntil_eq := by
      intro until_ disabled
      exact ⟨now, rfl, (Option.some.inj disabled).symm⟩ }

theorem Consistent.recover {status changed : SourceStatus} (consistent : status.Consistent)
    (recovered : status.recover? = some changed) : changed.Consistent := by
  by_cases zero : status.level = 0
  · simp [SourceStatus.recover?, zero] at recovered
  · simp only [SourceStatus.recover?, zero, if_false, Option.some.injEq] at recovered
    subst changed
    have bound := consistent.level_le
    exact {
      level_le := by
        simp only
        omega
      enabled_of_level_zero := fun _ => rfl
      initialFailure_isSome := fun _ => consistent.initialFailure_isSome (by omega)
      mostRecentFailure_isSome := fun _ => consistent.mostRecentFailure_isSome (by omega)
      disabledUntil_eq := by
        intro until_ disabled
        cases disabled }

theorem Consistent.checkpoint {status : SourceStatus} (consistent : status.Consistent)
    (now : Timestamp) (marker : ReleaseMarker) (fullyCaught : Bool) :
    (status.checkpoint now marker fullyCaught).Consistent where
  level_le := consistent.level_le
  enabled_of_level_zero := consistent.enabled_of_level_zero
  initialFailure_isSome := consistent.initialFailure_isSome
  mostRecentFailure_isSome := consistent.mostRecentFailure_isSome
  disabledUntil_eq := consistent.disabledUntil_eq

end SourceStatus

namespace StatusNote

theorem change_consistent {note : StatusNote} {now : Timestamp} {status changed : SourceStatus}
    (consistent : status.Consistent) (noted : note.change now status = some changed) :
    changed.Consistent := by
  cases note with
  | failure minimum =>
    obtain ⟨_, rfl⟩ := SourceStatus.escalate?_eq_some_iff.mp noted
    exact consistent.escalate now _
  | success => exact consistent.recover noted
  | checkpoint marker fullyCaught =>
    cases noted
    exact consistent.checkpoint now marker fullyCaught

theorem change_inOrder {note : StatusNote} {now : Timestamp} {status changed : SourceStatus}
    (inOrder : status.FailuresInOrder) (past : status.FailedBy now)
    (noted : note.change now status = some changed) :
    changed.FailuresInOrder ∧ changed.FailedBy now := by
  cases note with
  | failure minimum =>
    obtain ⟨_, rfl⟩ := SourceStatus.escalate?_eq_some_iff.mp noted
    have began : (status.escalate now (minimum.getD 0)).FailedBy now := by
      intro first failed
      by_cases zero : status.level = 0
      · simp only [SourceStatus.escalate, zero, if_true, Option.some.injEq] at failed
        exact failed ▸ le_refl now
      · simp only [SourceStatus.escalate, zero, if_false] at failed
        exact past first failed
    refine ⟨?_, began⟩
    intro first last failed latest
    cases latest
    exact began first failed
  | success =>
    simp only [change, SourceStatus.recover?] at noted
    split at noted
    · cases noted
    · cases noted
      exact ⟨inOrder, past⟩
  | checkpoint marker fullyCaught =>
    cases noted
    exact ⟨inOrder, past⟩

end StatusNote

section

variable {Holds : SourceStatus → Prop} (fresh : ∀ id, Holds { sourceId := id })
  (outlasts : ∀ (note : StatusNote) (now : Timestamp) (status changed : SourceStatus),
    Holds status → note.change now status = some changed → Holds changed)
include fresh outlasts

private theorem holds_of_written {step : TrackerStep} {records : List SourceStatus}
    {record : SourceStatus} (before : ∀ record ∈ records, Holds record)
    (writes : step.written? records = some record) : Holds record := by
  obtain ⟨note, _, noted⟩ := TrackerStep.change_of_written writes
  refine outlasts note step.now (recordOf records record.sourceId) record ?_ noted
  rcases recordOf_mem records record.sourceId with known | unknown
  · exact before _ known
  · exact unknown ▸ fresh record.sourceId

private theorem forall_mem_after (step : TrackerStep) {records : List SourceStatus}
    (ordered : Ordered records) (before : ∀ record ∈ records, Holds record) :
    ∀ record ∈ step.after records, Holds record := by
  intro record member
  rcases TrackerStep.mem_after ordered member with old | writes
  · exact before record old
  · exact holds_of_written fresh outlasts before writes

/-- What holds of fresh records and outlasts every note holds of every record. -/
theorem forall_mem_recordsAfter (steps : List TrackerStep) {records : List SourceStatus}
    (ordered : Ordered records) (before : ∀ record ∈ records, Holds record) :
    ∀ record ∈ recordsAfter steps records, Holds record := by
  induction steps generalizing records with
  | nil => exact before
  | cons step steps ih =>
    exact ih (step.ordered_after ordered) (forall_mem_after fresh outlasts step ordered before)

theorem forall_mem_writtenBy (steps : List TrackerStep) {records : List SourceStatus}
    (ordered : Ordered records) (before : ∀ record ∈ records, Holds record) :
    ∀ record ∈ writtenBy steps records, Holds record := by
  induction steps generalizing records with
  | nil => exact fun _ member => nomatch member
  | cons step steps ih =>
    intro record member
    rcases List.mem_append.mp member with now | later
    · exact holds_of_written fresh outlasts before (Option.mem_toList.mp now)
    · exact ih (step.ordered_after ordered)
        (forall_mem_after fresh outlasts step ordered before) record later

end

/-- The clock bounds when failures began, which keeps them in order as long as it does not go
back. -/
private theorem inOrder_recordsAfter (steps : List TrackerStep)
    (forward : steps.Pairwise fun earlier later => earlier.now ≤ later.now)
    {records : List SourceStatus} (ordered : Ordered records)
    (inOrder : ∀ record ∈ records, record.FailuresInOrder)
    (past : ∀ step ∈ steps, ∀ record ∈ records, record.FailedBy step.now) :
    ∀ record ∈ recordsAfter steps records, record.FailuresInOrder := by
  induction steps generalizing records with
  | nil => exact inOrder
  | cons step steps ih =>
    obtain ⟨clock, restForward⟩ := List.pairwise_cons.mp forward
    have both : ∀ record ∈ step.after records,
        record.FailuresInOrder ∧ record.FailedBy step.now := by
      intro record member
      rcases TrackerStep.mem_after ordered member with old | writes
      · exact ⟨inOrder record old, past step List.mem_cons_self record old⟩
      · obtain ⟨note, _, noted⟩ := TrackerStep.change_of_written writes
        rcases recordOf_mem records record.sourceId with known | unknown
        · exact StatusNote.change_inOrder (inOrder _ known)
            (past step List.mem_cons_self _ known) noted
        · rw [unknown] at noted
          exact StatusNote.change_inOrder (fun _ _ failed => by cases failed)
            (fun _ failed => by cases failed) noted
    apply ih restForward (step.ordered_after ordered)
    · intro record member
      exact (both record member).1
    · intro later laterMember record member first failed
      exact ((both record member).2 first failed).trans (clock later laterMember)

/-- Whatever calls are made in whatever order, every record in memory is found under its own source
id alone, and its parts agree; as long as the clock does not go back, its failures are in order. -/
theorem consistent_of_mem_runSteps (steps : List TrackerStep) (record : SourceStatus)
    (kept : record ∈ (StatusStore.memory.runSteps steps []).2) :
    (∀ id, StatusStore.memory.lookUp (StatusStore.memory.runSteps steps []).2 id =
        .ok (some record) ↔ id = record.sourceId) ∧
      record.Consistent ∧
      ((steps.Pairwise fun earlier later => earlier.now ≤ later.now) →
        record.FailuresInOrder) := by
  rw [StatusStore.runSteps_memory] at kept ⊢
  have ordered : Ordered (recordsAfter steps []) := ordered_recordsAfter List.Pairwise.nil steps
  refine ⟨?_, ?_, ?_⟩
  · intro id
    rw [(StatusStore.shows_memory (recordsAfter steps [])).lookUp id, Except.ok.injEq,
      find?_eq_some_iff ordered id]
    exact ⟨fun found => found.2.symm, fun same => ⟨kept, same.symm⟩⟩
  · exact forall_mem_recordsAfter SourceStatus.consistent_fresh
      (fun _ _ _ _ => StatusNote.change_consistent) steps List.Pairwise.nil
      (fun _ member => nomatch member) record kept
  · intro forward
    exact inOrder_recordsAfter steps forward List.Pairwise.nil (fun _ member => nomatch member)
      (fun _ _ _ member => nomatch member) record kept

/-- A source fails, is read up to a release later on, and fails again with a wish to be left alone
for two hours. -/
def failedTwice : List TrackerStep :=
  [⟨.ofSeconds 1000, .note 7 (.failure none)⟩,
    ⟨.ofSeconds 1300, .note 7 (.checkpoint ⟨none, "Show".toList, .ofSeconds 1200⟩ true)⟩,
    ⟨.ofSeconds 1400, .note 7 (.failure (some (2 * 3600 * nanosPerSecond)))⟩]

def failedTwiceRecord : SourceStatus :=
  { sourceId := 7
    level := 5
    initialFailure := some (.ofSeconds 1000)
    mostRecentFailure := some (.ofSeconds 1400)
    disabledUntil := some (.ofSeconds 12200)
    lastContinuousSync := some (.ofSeconds 1300)
    lastSyncMarker := some ⟨none, "Show".toList, .ofSeconds 1200⟩ }

theorem consistent_failedTwiceRecord :
    failedTwiceRecord ∈ (StatusStore.memory.runSteps failedTwice []).2 ∧
      (failedTwice.Pairwise fun earlier later => earlier.now ≤ later.now) ∧
      failedTwiceRecord.Consistent ∧ failedTwiceRecord.FailuresInOrder := by
  have kept : failedTwiceRecord ∈ (StatusStore.memory.runSteps failedTwice []).2 := by
    decide +kernel
  have forward : failedTwice.Pairwise fun earlier later => earlier.now ≤ later.now := by
    decide +kernel
  obtain ⟨_, consistent, inOrder⟩ := consistent_of_mem_runSteps failedTwice failedTwiceRecord kept
  exact ⟨kept, forward, consistent, inOrder forward⟩

end Curator
