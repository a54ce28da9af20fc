import Curator.Health.RecordFile
import Curator.Proofs.Health.Invariant
import Curator.Proofs.Health.Table

/-! The tracker over a file. Records with plain years come back from the file as they were written,
so no answer tells whether the records are kept in a file or in memory, nor when the file was
opened. -/
namespace Curator.RecordFile

/-- The rows of a file stand for records. -/
def Holds (file : RecordFile) (records : List SourceStatus) : Prop :=
  ∃ rows, file.rows = some rows ∧ rows.map StatusRow.toStatus = records

variable {file : RecordFile} {records : List SourceStatus}

theorem run_onTable {α : Type} {rows : List StatusRow} (found : file.rows = some rows)
    (action : StoreAction (List StatusRow) α) :
    (onTable action).run.run file =
      ((action.run.run rows).1, { file with rows := some (action.run.run rows).2 }) := by
  obtain ⟨version, _⟩ := file
  cases found
  rcases result : action.run.run rows with ⟨outcome, left⟩
  have worked : (onTable action).run.run ⟨version, some rows⟩ =
      (liftExcept (action.run.run rows).1 : StoreAction RecordFile α).run.run
        ⟨version, some (action.run.run rows).2⟩ := rfl
  rw [worked, result]
  cases outcome <;> rfl

theorem shows_iff_holds : StatusStore.file.Shows file records ↔ file.Holds records := by
  constructor
  · intro shows
    cases found : file.rows with
    | none =>
      have missing : StatusStore.file.all.run.run file = (.error missingTable, file) := by
        obtain ⟨version, _⟩ := file
        cases found
        rfl
      cases missing.symm.trans shows.all
    | some rows =>
      have all := (run_onTable found StatusStore.table.all).symm.trans shows.all
      exact ⟨rows, found, Except.ok.inj (congrArg Prod.fst all)⟩
  · rintro ⟨rows, found, rfl⟩
    have same : { file with rows := some rows } = file := by
      rw [← found]
    have shows := StatusStore.shows_table rows
    constructor
    · intro id
      refine (run_onTable found (StatusStore.table.get id)).trans ?_
      rw [shows.get id]
      exact congrArg (Prod.mk _) same
    · refine (run_onTable found StatusStore.table.all).trans ?_
      rw [shows.all]
      exact congrArg (Prod.mk _) same

/-- A file can hold every record that is read back from its row. -/
theorem keeps_file : StatusStore.file.Keeps fun record =>
    (StatusRow.ofStatus record).toStatus = record := by
  intro file records record shows readBack
  obtain ⟨rows, found, rfl⟩ := shows_iff_holds.mp shows
  refine ⟨_, run_onTable found (StatusStore.table.upsert record), shows_iff_holds.mpr ?_⟩
  exact ⟨_, rfl, StatusStore.map_upsert_ofStatus readBack rows⟩

theorem Holds.opened (holds : file.Holds records) : file.opened.Holds records := by
  obtain ⟨rows, found, stand⟩ := holds
  refine ⟨rows, ?_, stand⟩
  unfold RecordFile.opened
  split
  · rw [withTable, found]
    rfl
  · exact found

theorem holds_new : (opened {}).Holds [] :=
  ⟨[], rfl, rfl⟩

/-- Sessions one after the other: at the start of each the file is opened, and then some steps are
made. The answers to all steps, and the file at the end. -/
def runSessions : List (List TrackerStep) → RecordFile →
    List (Except StoreFailure TrackerAnswer) × RecordFile
  | [], file => ([], file)
  | steps :: sessions, file =>
    let (answers, file) := StatusStore.file.runSteps steps file.opened
    let (later, file) := runSessions sessions file
    (answers ++ later, file)

/-- Sessions answer as their steps in a row do over records alone, and leave a file behind that
holds these records once it is opened. -/
private theorem runSessions_eq (sessions : List (List TrackerStep))
    (holds : file.opened.Holds records)
    (written : ∀ record ∈ writtenBy sessions.flatten records,
      (StatusRow.ofStatus record).toStatus = record) :
    (runSessions sessions file).1 = answersTo sessions.flatten records ∧
      (runSessions sessions file).2.opened.Holds (recordsAfter sessions.flatten records) := by
  induction sessions generalizing file records with
  | nil => exact ⟨rfl, holds⟩
  | cons steps sessions ih =>
    -- What a session leaves behind holds the records, and still does once it is opened again.
    rw [List.flatten_cons, writtenBy_append] at written
    obtain ⟨answers, shows⟩ := (shows_iff_holds.mpr holds).runSteps keeps_file steps
      fun record member => written record (List.mem_append_left _ member)
    obtain ⟨later, ends⟩ := ih (shows_iff_holds.mp shows).opened
      fun record member => written record (List.mem_append_right _ member)
    rw [List.flatten_cons, answersTo_append, recordsAfter_append]
    exact ⟨congrArg₂ (· ++ ·) answers later, ends⟩

/-- A record that the tracker writes is read back from its row. -/
theorem toStatus_ofStatus_of_written {steps : List TrackerStep}
    (plain : ∀ record ∈ writtenBy steps [], record.HasPlainYears) :
    ∀ record ∈ writtenBy steps [], (StatusRow.ofStatus record).toStatus = record := by
  intro record member
  have consistent := forall_mem_writtenBy SourceStatus.consistent_fresh
    (fun _ _ _ _ => StatusNote.change_consistent) steps List.Pairwise.nil
    (fun _ member => nomatch member) record member
  exact StatusRow.toStatus_ofStatus consistent.level_le (plain record member)

/-- However calls of the tracker are spread over sessions with a new file, they are answered as in
memory, every record they write is read back from its row, and whoever opens the file again finds
in it what the memory holds, as far as every instant that is written has a plain year. -/
theorem runSessions_as_memory (sessions : List (List TrackerStep))
    (plain : ∀ record ∈ writtenBy sessions.flatten [], record.HasPlainYears) :
    (runSessions sessions {}).1 = (StatusStore.memory.runSteps sessions.flatten []).1 ∧
      (∀ record ∈ writtenBy sessions.flatten [], (StatusRow.ofStatus record).toStatus = record) ∧
      StatusStore.file.Shows (runSessions sessions {}).2.opened
        (StatusStore.memory.runSteps sessions.flatten []).2 := by
  have readBack := toStatus_ofStatus_of_written plain
  obtain ⟨answers, holds⟩ := runSessions_eq sessions holds_new readBack
  rw [StatusStore.runSteps_memory]
  exact ⟨answers, readBack, shows_iff_holds.mpr holds⟩

/-- Half a second into the leap second at the end of 2016. -/
def leapSecond : Timestamp where
  seconds := 1483228799
  nanos := 1500000000
  nanos_lt := by decide
  minute_end := by decide

/-- A marker with a quote, a backslash, a line break and a control character in its texts. -/
def oddMarker : ReleaseMarker where
  guid := some "a\"b\\c".toList
  title := "line\nbreak\x01é".toList
  publishDate := .ofPosition 1483228800000000001

/-- A source fails in a leap second, and is read up to a release after the file is opened again. -/
def leapSessions : List (List TrackerStep) :=
  [[⟨leapSecond, .note 7 (.failure none)⟩], [],
    [⟨.ofSeconds 1483228830, .note 7 (.checkpoint oddMarker true)⟩],
    [⟨.ofSeconds 1483228860, .status 7⟩, ⟨.ofSeconds 1483228860, .isBlocked 7⟩]]

def leapRecord : SourceStatus where
  sourceId := 7
  level := 1
  initialFailure := some leapSecond
  mostRecentFailure := some leapSecond
  disabledUntil := some (.ofPosition 1483229099500000000)
  lastContinuousSync := some (.ofSeconds 1483228830)
  lastSyncMarker := some oddMarker

theorem runSessions_leapSessions :
    leapRecord ∈ writtenBy leapSessions.flatten [] ∧
      (∀ record ∈ writtenBy leapSessions.flatten [], record.HasPlainYears) ∧
      (StatusRow.ofStatus leapRecord).toStatus = leapRecord ∧
      (runSessions leapSessions {}).1 =
        [.ok .done, .ok .done, .ok (.status leapRecord), .ok (.blocked true)] := by
  have written : leapRecord ∈ writtenBy leapSessions.flatten [] := by
    decide +kernel
  have plain : ∀ record ∈ writtenBy leapSessions.flatten [], record.HasPlainYears := by
    decide +kernel
  obtain ⟨answers, readBack, _⟩ := runSessions_as_memory leapSessions plain
  refine ⟨written, plain, readBack leapRecord written, ?_⟩
  rw [answers]
  decide +kernel

end Curator.RecordFile
