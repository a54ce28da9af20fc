import Curator.Proofs.Health.History

/-! The record of one source while calls are made about many. Only what is noted about the source
itself changes its record. -/
namespace Curator

/-- The record after a note, changed or not. -/
def StatusNote.apply (now : Timestamp) (status : SourceStatus) (note : StatusNote) : SourceStatus :=
  (note.change now status).getD status

/-- The records that notes about a source write one after the other. -/
def StatusNote.written (now : Timestamp) : List StatusNote → SourceStatus → List SourceStatus
  | [], _ => []
  | note :: notes, status =>
    (note.change now status).toList ++ written now notes (note.apply now status)

def TrackerStep.apply (id : Int) (status : SourceStatus) (step : TrackerStep) : SourceStatus :=
  match step.call with
  | .note noted note => if noted = id then note.apply step.now status else status
  | _ => status

theorem recordOf_after (step : TrackerStep) (records : List SourceStatus) (id : Int) :
    recordOf (step.after records) id = step.apply id (recordOf records id) := by
  obtain ⟨now, call⟩ := step
  cases call with
  | note noted note =>
    simp only [TrackerStep.after, TrackerStep.written?, TrackerStep.apply, StatusNote.apply]
    by_cases own : noted = id
    · subst own
      rw [if_pos rfl]
      cases written : note.change now (recordOf records noted) with
      | none => rfl
      | some record =>
        have same : record.sourceId = noted :=
          (StatusNote.change_sourceId written).trans (sourceId_recordOf records noted)
        simp only [recordOf, find?_insertRecord, if_pos same, Option.getD_some]
    · rw [if_neg own]
      cases written : note.change now (recordOf records noted) with
      | none => rfl
      | some record =>
        have other : record.sourceId ≠ id := by
          rwa [StatusNote.change_sourceId written, sourceId_recordOf]
        simp only [recordOf, find?_insertRecord, if_neg other]
  | status id => rfl
  | isBlocked id => rfl
  | all => rfl
  | blockedSources => rfl

theorem recordOf_recordsAfter (steps : List TrackerStep) (records : List SourceStatus) (id : Int) :
    recordOf (recordsAfter steps records) id =
      steps.foldl (TrackerStep.apply id) (recordOf records id) := by
  induction steps generalizing records with
  | nil => rfl
  | cons step steps ih =>
    rw [List.foldl_cons, ← recordOf_after]
    exact ih (step.after records)

end Curator
