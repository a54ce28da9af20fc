import Curator.Proofs.Health.Independence

/-! The views of the records. Whatever was called before, the list of all records, the record of one
source, the list of the sources that are left alone and the question about one of them tell the
same. -/
namespace Curator

/-- Whether there is a record of a source after a step, whatever was there before. A success is not
noted where there is nothing to recover from. -/
def TrackerStep.BringsRecord (id : Int) (step : TrackerStep) : Prop :=
  ∃ note, step.call = .note id note ∧ note ≠ .success

variable {readBack : SourceStatus → SourceStatus} {id : Int}

theorem TrackerStep.isSome_kept_iff (step : TrackerStep) (found : Option SourceStatus) :
    (step.kept readBack id found).isSome = true ↔
      found.isSome = true ∨ step.BringsRecord id := by
  by_cases noted : ∃ note, step.call = .note id note
  · obtain ⟨now, call⟩ := step
    obtain ⟨note, rfl⟩ := noted
    rw [TrackerStep.kept_own]
    cases note with
    | failure minimum =>
      cases found with
      | none => simp [BringsRecord, StatusNote.change, SourceStatus.escalate?]
      | some status => simp
    | checkpoint marker fullyCaught => simp [BringsRecord, StatusNote.change]
    | success =>
      cases found with
      | none => simp [BringsRecord, StatusNote.change, SourceStatus.recover?]
      | some status => simp
  · have silent : ∀ note, step.call ≠ .note id note := not_exists.mp noted
    rw [TrackerStep.kept_of_other silent]
    constructor
    · exact .inl
    · rintro (present | ⟨note, called, _⟩)
      · exact present
      · exact absurd called (silent note)

theorem isSome_foldl_kept_iff (steps : List TrackerStep) (found : Option SourceStatus) :
    (steps.foldl (TrackerStep.kept readBack id) found).isSome = true ↔
      found.isSome = true ∨ ∃ step ∈ steps, step.BringsRecord id := by
  induction steps generalizing found with
  | nil => simp
  | cons step steps ih =>
    rw [List.foldl_cons, ih, TrackerStep.isSome_kept_iff, List.exists_mem_cons_iff, or_assoc]

namespace StatusStore

variable {σ : Type} {store : StatusStore σ} {contents left : σ} {records : List SourceStatus}
  {steps : List TrackerStep}

/-- What the views of a store tell at an instant, by the lists that two of them give: all records,
and those of the sources that are left alone. -/
structure Views (store : StatusStore σ) (contents : σ) (now : Timestamp)
    (records blocked : List SourceStatus) : Prop where
  all : store.all.run.run contents = (.ok records, contents)
  blockedSources : (store.blockedSources now).run.run contents = (.ok blocked, contents)
  increasing : records.Pairwise fun left right => left.sourceId < right.sourceId
  /-- Who asks for the record of a source gets the one in the list. -/
  status : ∀ record ∈ records,
    (store.status record.sourceId).run.run contents = (.ok record, contents)
  /-- A source is left alone when it is in the list of those sources. -/
  isBlocked : ∀ id, ∃ isBlocked, (store.isBlocked now id).run.run contents =
      (.ok isBlocked, contents) ∧
    (isBlocked = true ↔ ∃ record ∈ blocked, record.sourceId = id)
  sameOrder : blocked.Sublist records

theorem Shows.views (shows : store.Shows contents records) (ordered : Ordered records)
    (now : Timestamp) :
    store.Views contents now records (records.filter (·.isDisabledAt now)) where
  all := shows.all
  blockedSources := run_bind_ok shows.all
  increasing := ordered
  status record member := by
    have found := (recordOf?_eq_some_iff ordered).mpr ⟨member, rfl⟩
    rw [shows.status, recordOf_eq_getD, found, Option.getD_some]
  isBlocked id := by
    refine ⟨_, shows.isBlocked now id, ?_⟩
    rw [recordOf_eq_getD]
    constructor
    · intro disabled
      cases found : recordOf? records id with
      | none =>
        -- A fresh record is never disabled.
        rw [found] at disabled
        cases disabled
      | some record =>
        rw [found] at disabled
        obtain ⟨member, own⟩ := (recordOf?_eq_some_iff ordered).mp found
        exact ⟨record, List.mem_filter.mpr ⟨member, disabled⟩, own⟩
    · rintro ⟨record, listed, own⟩
      obtain ⟨member, disabled⟩ := List.mem_filter.mp listed
      rw [(recordOf?_eq_some_iff ordered).mpr ⟨member, own⟩]
      exact disabled
  sameOrder := List.filter_sublist

/-- Calls that begin without any record leave those of the sources about which something other than
a success was noted. -/
theorem Overlap.mem_iff (works : store.Works readBack) (empty : store.Shows contents [])
    (run : store.Overlap contents steps .allFree left) :
    ∃ shown, store.Shows left shown ∧ Ordered shown ∧
      ∀ id, (∃ record ∈ shown, record.sourceId = id) ↔
        ∃ step ∈ steps, step.BringsRecord id := by
  obtain ⟨shown, shows, ordered, found⟩ := run.shows works empty List.Pairwise.nil
  refine ⟨shown, shows, ordered, ?_⟩
  intro id
  have present : (recordOf? shown id).isSome = true ↔ ∃ step ∈ steps, step.BringsRecord id := by
    rw [found id, isSome_foldl_kept_iff]
    simp
  rw [← present, List.find?_isSome]
  simp

/-- Whatever calls were made, in memory or over a new file, the views of the records agree at every
instant: all records come by increasing source id, one for each source about which a failure or a
checkpoint was noted, and the same as when it is asked for alone; and the sources that are left
alone are listed, in the same order, if and only if the question about the source says so. -/
theorem views_agree (steps : List TrackerStep) (now : Timestamp) :
    (∃ records blocked, memory.Views (memory.runSteps steps []).2 now records blocked ∧
      ∀ id, (∃ record ∈ records, record.sourceId = id) ↔
        ∃ step ∈ steps, step.BringsRecord id) ∧
    ∃ records blocked,
      file.Views (file.runSteps steps (RecordFile.opened {})).2 now records blocked ∧
      ∀ id, (∃ record ∈ records, record.sourceId = id) ↔
        ∃ step ∈ steps, step.BringsRecord id := by
  constructor
  · obtain ⟨shown, shows, ordered, known⟩ :=
      (Overlap.start.runSteps steps).mem_iff works_memory (shows_memory [])
    exact ⟨shown, _, shows.views ordered now, known⟩
  · obtain ⟨shown, shows, ordered, known⟩ :=
      (Overlap.start.runSteps steps).mem_iff works_file
        (RecordFile.shows_iff_holds.mpr RecordFile.holds_new)
    exact ⟨shown, _, shows.views ordered now, known⟩

end StatusStore

end Curator
