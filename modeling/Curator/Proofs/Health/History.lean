import Curator.Health.Tracker
import Curator.Proofs.Health.Records

/-! Calls of the tracker one after the other. Over records in memory no call fails, and what a call
answers and leaves behind is a plain function of the records before it. -/
namespace Curator

/-- What is noted about a source. -/
inductive StatusNote where
  | failure (minimum : Option Nat)
  | success
  | checkpoint (marker : ReleaseMarker) (fullyCaught : Bool)
deriving DecidableEq, Repr

/-- The record after a note, when the note changes it. -/
def StatusNote.change (now : Timestamp) : StatusNote → SourceStatus → Option SourceStatus
  | failure minimum, status => status.escalate? now (minimum.getD 0)
  | success, status => status.recover?
  | checkpoint marker fullyCaught, status => some (status.checkpoint now marker fullyCaught)

/-- The result of a note that changes nothing. -/
def StatusNote.otherwise : StatusNote → Except StoreFailure Unit
  | failure _ => .error .crashed
  | success | checkpoint _ _ => .ok ()

theorem SourceStatus.escalate?_eq_some_iff {status changed : SourceStatus} {now : Timestamp}
    {minimum : Nat} :
    status.escalate? now minimum = some changed ↔
      status.level < 4294967295 ∧ status.escalate now minimum = changed := by
  rw [escalate?, Option.ite_none_right_eq_some, Option.some.injEq]

inductive TrackerCall where
  | note (id : Int) (note : StatusNote)
  | status (id : Int)
  | isBlocked (id : Int)
  | all
  | blockedSources
deriving DecidableEq, Repr

/-- A call with the instant at which the clock stands. -/
structure TrackerStep where
  now : Timestamp
  call : TrackerCall
deriving DecidableEq, Repr

inductive TrackerAnswer where
  | done
  | status (status : SourceStatus)
  | blocked (isBlocked : Bool)
  | records (records : List SourceStatus)
deriving DecidableEq, Repr

namespace StatusStore

variable {σ : Type}

def takeNote (store : StatusStore σ) (now : Timestamp) (id : Int) : StatusNote → StoreAction σ Unit
  | .failure minimum => store.recordFailure now id minimum
  | .success => store.recordSuccess id
  | .checkpoint marker fullyCaught => store.recordCheckpoint now id marker fullyCaught

/-- The record that a store answers with when it is asked for a source. -/
def lookUp (store : StatusStore σ) (contents : σ) (id : Int) :
    Except StoreFailure (Option SourceStatus) :=
  ((store.get id).run.run contents).1

def perform (store : StatusStore σ) (step : TrackerStep) : StoreAction σ TrackerAnswer :=
  match step.call with
  | .note id note => do store.takeNote step.now id note; return .done
  | .status id => return .status (← store.status id)
  | .isBlocked id => return .blocked (← store.isBlocked step.now id)
  | .all => return .records (← store.all)
  | .blockedSources => return .records (← store.blockedSources step.now)

/-- The answers to calls in a row, and the contents after the last one. A call that fails does not
keep the next one from being made. -/
def runSteps (store : StatusStore σ) :
    List TrackerStep → σ → List (Except StoreFailure TrackerAnswer) × σ
  | [], contents => ([], contents)
  | step :: steps, contents =>
    let (answer, contents) := (store.perform step).run.run contents
    let (answers, contents) := runSteps store steps contents
    (answer :: answers, contents)

theorem takeNote_eq_update (store : StatusStore σ) (now : Timestamp) (id : Int)
    (note : StatusNote) :
    store.takeNote now id note = store.update id (note.change now) note.otherwise := by
  cases note <;> rfl

end StatusStore

namespace TrackerStep

/-- The record that a step writes when it begins with `records`. -/
def written? (step : TrackerStep) (records : List SourceStatus) : Option SourceStatus :=
  match step.call with
  | .note id note => note.change step.now (recordOf records id)
  | _ => none

/-- The records after a step that begins with `records`. -/
def after (step : TrackerStep) (records : List SourceStatus) : List SourceStatus :=
  match step.written? records with
  | some record => insertRecord SourceStatus.sourceId record records
  | none => records

/-- What a step that begins with `records` tells. -/
def answer (step : TrackerStep) (records : List SourceStatus) :
    Except StoreFailure TrackerAnswer :=
  match step.call with
  | .note id note =>
    match note.change step.now (recordOf records id) with
    | some _ => .ok .done
    | none => note.otherwise.map fun _ => .done
  | .status id => .ok (.status (recordOf records id))
  | .isBlocked id => .ok (.blocked ((recordOf records id).isDisabledAt step.now))
  | .all => .ok (.records records)
  | .blockedSources => .ok (.records (records.filter (·.isDisabledAt step.now)))

end TrackerStep

def recordsAfter (steps : List TrackerStep) (records : List SourceStatus) : List SourceStatus :=
  steps.foldl (fun records step => step.after records) records

/-- A note about a source stays with the record of this source. -/
theorem StatusNote.change_sourceId {note : StatusNote} {now : Timestamp}
    {status changed : SourceStatus} (noted : note.change now status = some changed) :
    changed.sourceId = status.sourceId := by
  cases note with
  | failure minimum =>
    obtain ⟨_, rfl⟩ := SourceStatus.escalate?_eq_some_iff.mp noted
    rfl
  | success =>
    simp only [change, SourceStatus.recover?] at noted
    split at noted
    · cases noted
    · cases noted
      rfl
  | checkpoint marker fullyCaught =>
    cases noted
    rfl

/-- A step writes the record of the source that something is noted about. -/
theorem TrackerStep.change_of_written {step : TrackerStep} {records : List SourceStatus}
    {record : SourceStatus} (writes : step.written? records = some record) :
    ∃ note, step.call = .note record.sourceId note ∧
      note.change step.now (recordOf records record.sourceId) = some record := by
  obtain ⟨now, call⟩ := step
  cases call with
  | note id note =>
    have same : record.sourceId = id :=
      (StatusNote.change_sourceId writes).trans (sourceId_recordOf records id)
    subst same
    exact ⟨note, rfl, writes⟩
  | status id => cases writes
  | isBlocked id => cases writes
  | all => cases writes
  | blockedSources => cases writes

theorem TrackerStep.ordered_after {records : List SourceStatus} (ordered : Ordered records)
    (step : TrackerStep) : Ordered (step.after records) := by
  unfold after
  split
  · exact ordered_insertRecord ordered _
  · exact ordered

theorem TrackerStep.mem_after {records : List SourceStatus} (ordered : Ordered records)
    {step : TrackerStep} {record : SourceStatus} (member : record ∈ step.after records) :
    record ∈ records ∨ step.written? records = some record := by
  unfold after at member
  split at member
  · rename_i written writes
    rcases (mem_insertRecord ordered).mp member with rfl | ⟨old, _⟩
    · exact .inr writes
    · exact .inl old
  · exact .inl member

theorem ordered_recordsAfter {records : List SourceStatus} (ordered : Ordered records)
    (steps : List TrackerStep) : Ordered (recordsAfter steps records) := by
  induction steps generalizing records with
  | nil => exact ordered
  | cons step steps ih => exact ih (step.ordered_after ordered)

def answersTo :
    List TrackerStep → List SourceStatus → List (Except StoreFailure TrackerAnswer)
  | [], _ => []
  | step :: steps, records => step.answer records :: answersTo steps (step.after records)

def writtenBy : List TrackerStep → List SourceStatus → List SourceStatus
  | [], _ => []
  | step :: steps, records =>
    (step.written? records).toList ++ writtenBy steps (step.after records)

theorem answersTo_append (steps later : List TrackerStep) (records : List SourceStatus) :
    answersTo (steps ++ later) records =
      answersTo steps records ++ answersTo later (recordsAfter steps records) := by
  induction steps generalizing records with
  | nil => rfl
  | cons step steps ih => exact congrArg (step.answer records :: ·) (ih _)

theorem writtenBy_append (steps later : List TrackerStep) (records : List SourceStatus) :
    writtenBy (steps ++ later) records =
      writtenBy steps records ++ writtenBy later (recordsAfter steps records) := by
  induction steps generalizing records with
  | nil => rfl
  | cons step steps ih =>
    rw [List.cons_append, writtenBy, writtenBy, ih, List.append_assoc]
    rfl

theorem recordsAfter_append (steps later : List TrackerStep) (records : List SourceStatus) :
    recordsAfter (steps ++ later) records = recordsAfter later (recordsAfter steps records) :=
  List.foldl_append

namespace StatusStore

variable {σ : Type} {store : StatusStore σ} {contents : σ} {records : List SourceStatus}

theorem run_bind {α β : Type} (action : StoreAction σ α) (next : α → StoreAction σ β)
    (contents : σ) :
    (action >>= next).run.run contents =
      match action.run.run contents with
      | (.ok value, left) => (next value).run.run left
      | (.error reason, left) => (.error reason, left) := by
  simp only [ExceptT.run_bind, StateT.run_bind]
  rcases action.run.run contents with ⟨reason | value, left⟩ <;> rfl

theorem run_bind_ok {α β : Type} {action : StoreAction σ α} {next : α → StoreAction σ β}
    {left : σ} {value : α} (done : action.run.run contents = (.ok value, left)) :
    (action >>= next).run.run contents = (next value).run.run left := by
  simp only [ExceptT.run_bind, StateT.run_bind, done]
  rfl

/-- Contents in which a store finds `records`. -/
structure Shows (store : StatusStore σ) (contents : σ) (records : List SourceStatus) : Prop where
  get : ∀ id, (store.get id).run.run contents =
    (.ok (records.find? (·.sourceId == id)), contents)
  all : store.all.run.run contents = (.ok records, contents)

theorem Shows.lookUp (shows : store.Shows contents records) (id : Int) :
    store.lookUp contents id = .ok (records.find? (·.sourceId == id)) := by
  rw [StatusStore.lookUp, shows.get id]

/-- A store that can put every record of a kind in its place. -/
def Keeps (store : StatusStore σ) (kind : SourceStatus → Prop) : Prop :=
  ∀ contents records record, store.Shows contents records → kind record →
    ∃ left, (store.upsert record).run.run contents = (.ok (), left) ∧
      store.Shows left (insertRecord SourceStatus.sourceId record records)

theorem Shows.status (shows : store.Shows contents records) (id : Int) :
    (store.status id).run.run contents = (.ok (recordOf records id), contents) := by
  rw [StatusStore.status, run_bind_ok (shows.get id)]
  rfl

theorem Shows.isBlocked (shows : store.Shows contents records) (now : Timestamp) (id : Int) :
    (store.isBlocked now id).run.run contents =
      (.ok ((recordOf records id).isDisabledAt now), contents) := by
  have read : (do return (← store.status id).isDisabledAt now : StoreAction σ Bool).run.run
      contents = (.ok ((recordOf records id).isDisabledAt now), contents) :=
    run_bind_ok (shows.status id)
  simp only [StatusStore.isBlocked, tryCatch, tryCatchThe, MonadExceptOf.tryCatch]
  change StateT.run (ExceptT.run (do
    return (← store.status id).isDisabledAt now) >>= _) contents = _
  rw [StateT.run_bind, read]
  rfl

theorem Shows.update (shows : store.Shows contents records) (id : Int)
    (change : SourceStatus → Option SourceStatus) (otherwise : Except StoreFailure Unit) :
    (store.update id change otherwise).run.run contents =
      match change (recordOf records id) with
      | some status => (store.upsert status).run.run contents
      | none => (otherwise, contents) := by
  rw [StatusStore.update, run_bind_ok (shows.status id)]
  cases change (recordOf records id) with
  | some status => rfl
  | none => cases otherwise <;> rfl

/-- A step over a store that keeps what the step writes answers as over the records alone. -/
theorem Shows.perform (shows : store.Shows contents records) (step : TrackerStep)
    (keeps : ∀ record, step.written? records = some record →
      ∃ left, (store.upsert record).run.run contents = (.ok (), left) ∧
        store.Shows left (insertRecord SourceStatus.sourceId record records)) :
    ∃ left, (store.perform step).run.run contents = (step.answer records, left) ∧
      store.Shows left (step.after records) := by
  obtain ⟨now, call⟩ := step
  cases call with
  | note id note =>
    have noted := shows.update id (note.change now) note.otherwise
    cases written : note.change now (recordOf records id) with
    | none =>
      rw [written] at noted
      refine ⟨contents, ?_, ?_⟩
      · simp only [StatusStore.perform, takeNote_eq_update, run_bind, noted,
          TrackerStep.answer, written]
        cases note.otherwise <;> rfl
      · simpa [TrackerStep.after, TrackerStep.written?, written] using shows
    | some record =>
      rw [written] at noted
      obtain ⟨left, upserted, kept⟩ := keeps record (by simp [TrackerStep.written?, written])
      refine ⟨left, ?_, ?_⟩
      · simp only [StatusStore.perform, takeNote_eq_update, TrackerStep.answer, written]
        exact run_bind_ok (noted.trans upserted)
      · simpa [TrackerStep.after, TrackerStep.written?, written] using kept
  | status id =>
    refine ⟨contents, ?_, shows⟩
    exact run_bind_ok (shows.status id)
  | isBlocked id =>
    refine ⟨contents, ?_, shows⟩
    exact run_bind_ok (shows.isBlocked now id)
  | all =>
    refine ⟨contents, ?_, shows⟩
    exact run_bind_ok shows.all
  | blockedSources =>
    refine ⟨contents, ?_, shows⟩
    have read : (store.blockedSources now).run.run contents =
        (.ok (records.filter (·.isDisabledAt now)), contents) := run_bind_ok shows.all
    exact run_bind_ok read

/-- The answers of a store that keeps what the steps write are those over the records alone, and it
ends with the same records. -/
theorem Shows.runSteps {kind : SourceStatus → Prop} (keeps : store.Keeps kind)
    (steps : List TrackerStep) (shows : store.Shows contents records)
    (written : ∀ record ∈ writtenBy steps records, kind record) :
    (store.runSteps steps contents).1 = answersTo steps records ∧
      store.Shows (store.runSteps steps contents).2 (recordsAfter steps records) := by
  induction steps generalizing contents records with
  | nil => exact ⟨rfl, shows⟩
  | cons step steps ih =>
    obtain ⟨left, performed, still⟩ := shows.perform step fun record writes =>
      keeps contents records record shows (written record (by simp [writtenBy, writes]))
    obtain ⟨answers, ends⟩ := ih still fun record later =>
      written record (List.mem_append_right _ later)
    simp only [StatusStore.runSteps, performed, answersTo, answers, true_and]
    exact ends

theorem shows_memory (records : List SourceStatus) : memory.Shows records records where
  get _ := rfl
  all := rfl

theorem eq_of_shows_memory {contents : List SourceStatus}
    (shows : memory.Shows contents records) : contents = records :=
  Except.ok.inj (congrArg Prod.fst shows.all : Except.ok contents = .ok records)

theorem keeps_memory : memory.Keeps fun _ => True := by
  intro contents records record shows _
  rw [eq_of_shows_memory shows]
  exact ⟨_, rfl, shows_memory _⟩

theorem runSteps_memory (steps : List TrackerStep) (records : List SourceStatus) :
    memory.runSteps steps records =
      (answersTo steps records, recordsAfter steps records) := by
  obtain ⟨answers, shows⟩ := (shows_memory records).runSteps keeps_memory steps
    fun _ _ => trivial
  exact Prod.ext answers (eq_of_shows_memory shows)

end StatusStore

end Curator
