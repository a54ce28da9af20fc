import Curator.Proofs.Health.Notes
import Curator.Proofs.Sync.Interleaving
import Curator.Proofs.Time.Order

/-! What a pass makes of the record of a source. A source that is left alone keeps its record, and
so does one that breaks down; one that has nothing to offer is left alone for longer; and one that
releases were read from is remembered by the newest of them. -/
namespace Curator

/-- The last of those releases that were published last. -/
def Release.IsNewestOf (newest : Release) (releases : List Release) : Prop :=
  ∃ front back, releases = front ++ newest :: back ∧
    (∀ release ∈ front, release.publishDate ≤ newest.publishDate) ∧
    ∀ release ∈ back, release.publishDate < newest.publishDate

theorem Release.IsNewestOf.mem {newest : Release} {releases : List Release}
    (isNewest : newest.IsNewestOf releases) : newest ∈ releases := by
  obtain ⟨front, back, rfl, _⟩ := isNewest
  exact List.mem_append_right front List.mem_cons_self

namespace Poll

theorem newest?_concat (releases : List Release) (last : Release) :
    newest? (releases ++ [last]) =
      match newest? releases with
      | some best => if last.publishDate.before best.publishDate then some best else some last
      | none => some last :=
  List.foldl_append

theorem exists_newest? {releases : List Release} (nonempty : releases ≠ []) :
    ∃ newest, newest? releases = some newest ∧ newest.IsNewestOf releases := by
  induction releases using List.reverseRecOn with
  | nil => exact absurd rfl nonempty
  | append_singleton releases last ih =>
    rw [newest?_concat]
    by_cases empty : releases = []
    · subst empty
      exact ⟨last, rfl, [], [], rfl, by simp, by simp⟩
    · obtain ⟨best, found, front, back, split, upTo, below⟩ := ih empty
      rw [found]
      dsimp only
      -- The last release replaces the best one so far unless it is older.
      split
      · rename_i older
        rw [Timestamp.before_iff_lt] at older
        refine ⟨best, rfl, front, back ++ [last], by simp [split], upTo, ?_⟩
        intro release member
        rcases List.mem_append.mp member with old | new
        · exact below release old
        · exact List.mem_singleton.mp new ▸ older
      · rename_i notOlder
        rw [Timestamp.before_iff_lt, not_lt] at notOlder
        refine ⟨last, rfl, releases, [], rfl, ?_, by simp⟩
        intro release member
        rw [split] at member
        rcases List.mem_append.mp member with old | rest
        · exact (upTo release old).trans notOlder
        · rcases List.mem_cons.mp rest with same | new
          · exact same ▸ notOlder
          · exact (below release new).le.trans notOlder

end Poll

namespace StatusNote

/-- A store that has back what is written finds the record after all notes. -/
theorem getD_foldl_leaves {readBack : SourceStatus → SourceStatus} {now : Timestamp} {id : Int}
    {notes : List StatusNote} {stored : Option SourceStatus}
    (kept : ∀ record ∈ written now notes (stored.getD { sourceId := id }),
      readBack record = record) :
    (notes.foldl (leaves readBack now id) stored).getD { sourceId := id } =
      notes.foldl (apply now) (stored.getD { sourceId := id }) := by
  induction notes generalizing stored with
  | nil => rfl
  | cons note notes ih =>
    rw [List.foldl_cons, List.foldl_cons]
    have next : (note.leaves readBack now id stored).getD { sourceId := id } =
        note.apply now (stored.getD { sourceId := id }) := by
      unfold leaves apply
      cases noted : note.change now (stored.getD { sourceId := id }) with
      | none => rfl
      | some changed =>
        exact kept changed (by simp [written, noted])
    rw [← next]
    apply ih
    intro record member
    rw [next] at member
    exact kept record (List.mem_append_right _ member)

end StatusNote

namespace SourceStatus

/-- What becomes of the record of a source that has nothing to offer: the source is left alone for
`minimum` nanoseconds at least, and what was read last does not change. A level that cannot be
counted up keeps its record. -/
structure FailedTo (before : SourceStatus) (now : Timestamp) (minimum : Nat)
    (after : SourceStatus) : Prop where
  escalated : before.level < 4294967295 → after = before.escalate now minimum
  stays : 4294967295 ≤ before.level → after = before
  lastSyncMarker : after.lastSyncMarker = before.lastSyncMarker
  lastContinuousSync : after.lastContinuousSync = before.lastContinuousSync

/-- What becomes of the record of a source from which releases were read. -/
structure SyncedTo (before : SourceStatus) (now : Timestamp) (releases : List Release)
    (fullyCaught : Bool) (after : SourceStatus) : Prop where
  level : after.level = before.level - 1
  disabledUntil : after.disabledUntil = if 0 < before.level then none else before.disabledUntil
  failures : after.initialFailure = before.initialFailure ∧
    after.mostRecentFailure = before.mostRecentFailure
  marker_of_nil : releases = [] → after.lastSyncMarker = before.lastSyncMarker
  marker : releases ≠ [] → ∃ newest : Release, newest.IsNewestOf releases ∧
    after.lastSyncMarker = some (.ofRelease newest)
  continuous : after.lastContinuousSync =
    if releases ≠ [] ∧ fullyCaught = true then some now else before.lastContinuousSync
  fullyCaught_iff : fullyCaught = true ↔ before.lastSyncMarker = none ∨
    ∃ marker, before.lastSyncMarker = some marker ∧ ∃ release ∈ releases, marker.isOf release = true

theorem isDisabledAt_iff {status : SourceStatus} {now : Timestamp} :
    status.isDisabledAt now = true ↔
      ∃ until_, status.disabledUntil = some until_ ∧ now < until_ := by
  cases disabled : status.disabledUntil <;>
    simp [isDisabledAt, disabled, Timestamp.before_iff_lt]

theorem isCaught_iff (marker : Option ReleaseMarker) (releases : List Release) :
    Poll.isCaught marker releases = true ↔ marker = none ∨
      ∃ known, marker = some known ∧ ∃ release ∈ releases, known.isOf release = true := by
  cases marker <;> simp [Poll.isCaught]

theorem apply_success (now : Timestamp) (status : SourceStatus) :
    StatusNote.success.apply now status =
      { status with
        level := status.level - 1
        disabledUntil := if 0 < status.level then none else status.disabledUntil } := by
  by_cases zero : status.level = 0
  · have stays : StatusNote.success.change now status = none := if_pos zero
    rw [StatusNote.apply, stays]
    cases status
    cases zero
    rfl
  · have recovers : StatusNote.success.change now status =
        some { status with level := status.level - 1, disabledUntil := none } := if_neg zero
    rw [StatusNote.apply, recovers, if_pos (Nat.pos_of_ne_zero zero)]
    rfl

theorem failedTo_apply (status : SourceStatus) (now : Timestamp) (minimum : Option Nat) :
    status.FailedTo now (minimum.getD 0) ((StatusNote.failure minimum).apply now status) := by
  by_cases countable : status.level < 4294967295
  · have escalates : (StatusNote.failure minimum).apply now status =
        status.escalate now (minimum.getD 0) :=
      congrArg (Option.getD · _) (escalate?_eq_some_iff.mpr ⟨countable, rfl⟩)
    rw [escalates]
    exact ⟨fun _ => rfl, fun tooHigh => absurd countable (not_lt.mpr tooHigh), rfl, rfl⟩
  · have stays : (StatusNote.failure minimum).apply now status = status :=
      congrArg (Option.getD · _) (if_neg countable)
    rw [stays]
    exact ⟨fun below => absurd below countable, fun _ => rfl, rfl, rfl⟩

theorem syncedTo_foldl (status : SourceStatus) (now : Timestamp) (releases : List Release) :
    status.SyncedTo now releases (Poll.isCaught status.lastSyncMarker releases)
      ((Poll.successNotes releases (Poll.isCaught status.lastSyncMarker releases)).foldl
        (StatusNote.apply now) status) := by
  have caught := isCaught_iff status.lastSyncMarker releases
  rw [Poll.successNotes, List.foldl_cons, apply_success]
  by_cases empty : releases = []
  · have none_ : Poll.newest? releases = none := by
      rw [empty]
      rfl
    rw [none_]
    exact {
      level := rfl
      disabledUntil := rfl
      failures := ⟨rfl, rfl⟩
      marker_of_nil := fun _ => rfl
      marker := fun nonempty => absurd empty nonempty
      continuous := (if_neg fun both => both.1 empty).symm
      fullyCaught_iff := caught }
  · obtain ⟨newest, found, isNewest⟩ := Poll.exists_newest? empty
    rw [found]
    exact {
      level := rfl
      disabledUntil := rfl
      failures := ⟨rfl, rfl⟩
      marker_of_nil := fun isEmpty => absurd isEmpty empty
      marker := fun _ => ⟨newest, isNewest, rfl⟩
      continuous := by
        simp [StatusNote.apply, StatusNote.change, checkpoint, empty]
      fullyCaught_iff := caught }

end SourceStatus

namespace Poll

variable {σ : Type} {store : StatusStore σ} {readBack : SourceStatus → SourceStatus}
  {contents : σ} {records : List SourceStatus} {now : Timestamp} {source : Source}

theorem conclusion_of_disabled {status : SourceStatus} (disabled : status.isDisabledAt now = true)
    (source : Source) (answer : FetchAnswer) :
    conclusion now source answer status = (some .skipped, []) :=
  if_pos disabled

theorem conclusion_of_reported {status : SourceStatus} {answer : FetchAnswer}
    {failure : FetchFailure} (enabled : status.isDisabledAt now = false)
    (read : source.read answer = .error (.reported failure)) :
    conclusion now source answer status =
      (some (.failed failure.message), [.failure failure.retryAfter]) := by
  simp [conclusion, enabled, read]

theorem conclusion_of_crashed {status : SourceStatus} {answer : FetchAnswer}
    (enabled : status.isDisabledAt now = false) (read : source.read answer = .error .crashed) :
    conclusion now source answer status = (none, []) := by
  simp [conclusion, enabled, read]

theorem conclusion_of_ok {status : SourceStatus} {answer : FetchAnswer} {releases : List Release}
    (enabled : status.isDisabledAt now = false) (read : source.read answer = .ok releases) :
    conclusion now source answer status =
      (some (.synced releases (isCaught status.lastSyncMarker releases)),
        successNotes releases (isCaught status.lastSyncMarker releases)) := by
  simp [conclusion, enabled, read]

theorem failedTo_of_reported {status : SourceStatus} {answer : FetchAnswer}
    {failure : FetchFailure} (enabled : status.isDisabledAt now = false)
    (read : source.read answer = .error (.reported failure)) :
    (conclusion now source answer status).1 = some (.failed failure.message) ∧
      status.FailedTo now (failure.retryAfter.getD 0)
        ((conclusion now source answer status).2.foldl (StatusNote.apply now) status) := by
  rw [conclusion_of_reported enabled read]
  exact ⟨rfl, status.failedTo_apply now failure.retryAfter⟩

theorem syncedTo_of_ok {status : SourceStatus} {answer : FetchAnswer} {releases : List Release}
    (enabled : status.isDisabledAt now = false) (read : source.read answer = .ok releases) :
    ∃ fullyCaught, (conclusion now source answer status).1 = some (.synced releases fullyCaught) ∧
      status.SyncedTo now releases fullyCaught
        ((conclusion now source answer status).2.foldl (StatusNote.apply now) status) := by
  rw [conclusion_of_ok enabled read]
  exact ⟨_, rfl, SourceStatus.syncedTo_foldl status now releases⟩

theorem isAsked_ofSource (shows : store.Shows contents records) (now : Timestamp)
    (source : Source) :
    (ofSource store now source).isAsked contents =
      !(recordOf records source.id).isDisabledAt now := by
  rw [ofSource, attempt, isAsked, shows.isBlocked now source.id]
  cases (recordOf records source.id).isDisabledAt now <;> rfl

/-- The records that the poll of a source writes one after the other, by what is stored for it. -/
def written (now : Timestamp) (source : Source) (answer : FetchAnswer)
    (stored : Option SourceStatus) : List SourceStatus :=
  let status := stored.getD { sourceId := source.id }
  StatusNote.written now (conclusion now source answer status).2 status

/-- What a source has in a store once it was polled, when the store has back what is written. -/
theorem recordOf_of_leaves {readBack : SourceStatus → SourceStatus} {answer : FetchAnswer}
    {after : List SourceStatus}
    (kept : ∀ record ∈ written now source answer (recordOf? records source.id),
      readBack record = record)
    (left : recordOf? after source.id =
      leaves readBack now source answer (recordOf? records source.id)) :
    recordOf after source.id =
      (conclusion now source answer (recordOf records source.id)).2.foldl (StatusNote.apply now)
        (recordOf records source.id) := by
  rw [recordOf_eq_getD, left]
  exact StatusNote.getD_foldl_leaves kept

end Poll

namespace SourceSync

variable {σ : Type} {store : StatusStore σ} {readBack : SourceStatus → SourceStatus}
  {contents : σ} {records : List SourceStatus} {now : Timestamp} {source : Source}
  {answer : Source → FetchAnswer} {settings : Settings}

/-- A pass polls the sources before one, then this one, and then those behind it, until one of them
breaks down. -/
theorem run_pass_of_turn (store : StatusStore σ) (now : Timestamp) (answer : Source → FetchAnswer)
    {front back : List Source} (turn : settings.enabledSources = front ++ source :: back)
    (contents : σ) :
    let begins := (front.mapM (ofSource store now answer)).run.run contents
    let own := (ofSource store now answer source).run.run begins.2
    let rest := (back.mapM (ofSource store now answer)).run.run own.2
    (pass store now answer settings).run.run contents =
      (do return (← begins.1) ++ (← own.1) :: (← rest.1),
        if begins.1.isNone then begins.2 else if own.1.isNone then own.2 else rest.2) := by
  intro begins own rest
  unfold rest own begins
  rw [pass, turn, List.mapM_append, run_bind]
  rcases (front.mapM (ofSource store now answer)).run.run contents with ⟨_ | earlier, begins⟩
  · rfl
  dsimp only
  rw [List.mapM_cons, run_bind, run_bind]
  rcases (ofSource store now answer source).run.run begins with ⟨_ | own, left⟩
  · rfl
  dsimp only
  rw [run_bind]
  rcases (back.mapM (ofSource store now answer)).run.run left with ⟨_ | later, ends⟩ <;> rfl

/-- Sources with other ids leave the record of a source as it is. -/
theorem shows_mapM_ofSource (now : Timestamp) (answer : Source → FetchAnswer)
    (works : store.Works readBack) (shows : store.Shows contents records)
    (ordered : Ordered records) {others : List Source} {id : Int}
    (elsewhere : ∀ other ∈ others, other.id ≠ id) :
    ∃ after, store.Shows ((others.mapM (ofSource store now answer)).run.run contents).2 after ∧
      Ordered after ∧ recordOf? after id = recordOf? records id := by
  rw [run_mapM_ofSource]
  refine close_spares ?_ shows ordered false
  intro entry member
  obtain ⟨other, among, rfl⟩ := List.mem_map.mp member
  exact Poll.spares_ofSource works now (elsewhere other among)

/-- What a pass comes to and leaves for a source, when the sources before it are polled, then the
source itself, and then those behind it. -/
private theorem pass_of_turn (now : Timestamp) (answer : Source → FetchAnswer)
    (works : store.Works readBack) (shows : store.Shows contents records)
    (ordered : Ordered records) {front back : List Source}
    (turn : settings.enabledSources = front ++ source :: back)
    (alone : ∀ other ∈ front ++ back, other.id ≠ source.id) :
    let begins := (front.mapM (ofSource store now answer)).run.run contents
    let own := (ofSource store now answer source).run.run begins.2
    let rest := (back.mapM (ofSource store now answer)).run.run own.2
    let ends := (pass store now answer settings).run.run contents
    ends.1 = (do return (← begins.1) ++ (← own.1) :: (← rest.1)) ∧
    own.1 = (Poll.outcomeOf now source (answer source) (recordOf? records source.id)).map
      (ofOutcome source) ∧
    (Poll.ofSource store now source).isAsked begins.2 =
      !(recordOf records source.id).isDisabledAt now ∧
    ∃ after, store.Shows ends.2 after ∧
      (begins.1 = none → recordOf? after source.id = recordOf? records source.id) ∧
      (begins.1 ≠ none → recordOf? after source.id =
        Poll.leaves readBack now source (answer source) (recordOf? records source.id)) := by
  intro begins own rest ends
  -- What the store shows before the turn of the source, after it, and at the end of the pass.
  obtain ⟨between, showsBetween, orderedBetween, unchanged⟩ :=
    shows_mapM_ofSource now answer works shows ordered
      fun other earlier => alone other (List.mem_append_left _ earlier)
  obtain ⟨concludes, left, showsLeft, orderedLeft, leaves⟩ :=
    (Poll.settles_ofSource works now source (answer source)
      fun _ found => sourceId_of_recordOf? found).run showsBetween orderedBetween unchanged
  obtain ⟨after, showsAfter, _, same⟩ :=
    shows_mapM_ofSource now answer works showsLeft orderedLeft
      fun other later => alone other (List.mem_append_right _ later)
  have concluded : own.1 = _ := congrArg (Option.map (ofOutcome source)) concludes
  have asked : (Poll.ofSource store now source).isAsked begins.2 = _ :=
    Poll.isAsked_ofSource showsBetween now source
  rw [recordOf_eq_getD between, unchanged, ← recordOf_eq_getD] at asked
  have inTurn : ends = _ := run_pass_of_turn store now answer turn contents
  refine ⟨congrArg Prod.fst inTurn, concluded, asked, ?_⟩
  rw [inTurn]
  dsimp only
  split
  · rename_i broken
    rw [Option.isNone_iff_eq_none] at broken
    exact ⟨between, showsBetween, fun _ => unchanged, fun begun => absurd broken begun⟩
  · rename_i begun
    rw [Option.isNone_iff_eq_none] at begun
    split
    · exact ⟨left, showsLeft, fun broken => absurd broken begun, fun _ => leaves⟩
    · exact ⟨after, showsAfter, fun broken => absurd broken begun, fun _ => same.trans leaves⟩

/-- A pass changes the record of a source in one of these ways. The source is skipped without being
asked while it is left alone, and its record stays as it is. Else it is asked; when it gives no
answer or its document is rejected, its record is escalated; when its document breaks the reading,
the pass has no results, and the record stays as it is; and when releases are read from it, its
record recovers and remembers the newest release. A source that breaks down before it leaves it
without a poll. -/
theorem pass_changes_record (now : Timestamp) (answer : Source → FetchAnswer) (settings : Settings)
    (works : store.Works readBack) (shows : store.Shows contents records)
    (ordered : Ordered records) {front back : List Source}
    (turn : settings.enabledSources = front ++ source :: back)
    (alone : ∀ other ∈ front ++ back, other.id ≠ source.id)
    (kept : ∀ record ∈ Poll.written now source (answer source) (recordOf? records source.id),
      readBack record = record) :
    let status := recordOf records source.id
    let begins := (front.mapM (ofSource store now answer)).run.run contents
    let isAsked := (Poll.ofSource store now source).isAsked begins.2
    let own := (ofSource store now answer source).run.run begins.2
    let rest := (back.mapM (ofSource store now answer)).run.run own.2
    let ends := (pass store now answer settings).run.run contents
    ends.1 = (do return (← begins.1) ++ (← own.1) :: (← rest.1)) ∧
    ∃ after, store.Shows ends.2 after ∧
      (begins.1 = none → recordOf? after source.id = recordOf? records source.id) ∧
      (begins.1 ≠ none →
        (∀ until_, status.disabledUntil = some until_ → now < until_ →
          own.1 = some (ofOutcome source .skipped) ∧ isAsked = false ∧
            recordOf? after source.id = recordOf? records source.id) ∧
        ((∀ until_, status.disabledUntil = some until_ → until_ ≤ now) →
          isAsked = true ∧
          (∀ failure, answer source = .error failure →
            own.1 = some (ofOutcome source (.failed failure.message)) ∧
              status.FailedTo now (failure.retryAfter.getD 0) (recordOf after source.id)) ∧
          (∀ document fault, answer source = .ok document →
            FeedDocument.releases source document = .error (.reported fault) →
            own.1 = some (ofOutcome source (.failed fault.message)) ∧
              status.FailedTo now 0 (recordOf after source.id)) ∧
          (∀ document, answer source = .ok document →
            FeedDocument.releases source document = .error .crashed →
            own.1 = none ∧ recordOf? after source.id = recordOf? records source.id) ∧
          ∀ document releases, answer source = .ok document →
            FeedDocument.releases source document = .ok releases →
            ∃ fullyCaught, own.1 = some (ofOutcome source (.synced releases fullyCaught)) ∧
              status.SyncedTo now releases fullyCaught (recordOf after source.id))) := by
  intro status begins isAsked own rest ends
  obtain ⟨inTurn, concluded, asked, after, showsAfter, untouched, leaves⟩ :=
    pass_of_turn now answer works shows ordered turn alone
  refine ⟨inTurn, after, showsAfter, untouched, fun begun => ?_⟩
  have asks : isAsked = !status.isDisabledAt now := asked
  have record : recordOf after source.id =
      (Poll.conclusion now source (answer source) status).2.foldl (StatusNote.apply now)
        status := Poll.recordOf_of_leaves kept (leaves begun)
  have concludes (outcome : Option SyncOutcome)
      (ends : (Poll.conclusion now source (answer source) status).1 = outcome) :
      own.1 = outcome.map (ofOutcome source) :=
    concluded.trans (congrArg (Option.map (ofOutcome source)) ends)
  refine ⟨?_, ?_⟩
  · intro until_ known early
    have disabled : status.isDisabledAt now = true :=
      SourceStatus.isDisabledAt_iff.mpr ⟨until_, known, early⟩
    have skips := Poll.conclusion_of_disabled disabled source (answer source)
    refine ⟨concludes (some .skipped) (congrArg Prod.fst skips), by rw [asks, disabled]; rfl, ?_⟩
    rw [leaves begun, Poll.leaves, ← recordOf_eq_getD, skips]
    rfl
  · intro past
    have enabled : status.isDisabledAt now = false := by
      rw [Bool.eq_false_iff, Ne, SourceStatus.isDisabledAt_iff]
      rintro ⟨until_, known, early⟩
      exact not_lt.mpr (past until_ known) early
    rw [record]
    refine ⟨by rw [asks, enabled]; rfl, ?_, ?_, ?_, ?_⟩
    · intro failure given
      have read : source.read (answer source) = .error (.reported failure) := by
        rw [given]
        rfl
      obtain ⟨ends, failed⟩ := Poll.failedTo_of_reported enabled read
      exact ⟨concludes _ ends, failed⟩
    · intro document fault given rejected
      obtain ⟨ends, failed⟩ :=
        Poll.failedTo_of_reported enabled (given ▸ Source.read_of_reported rejected)
      exact ⟨concludes _ ends, failed⟩
    · intro document given broken
      have breaks := Poll.conclusion_of_crashed enabled
        (Source.read_eq_crashed_iff.mpr ⟨document, given, broken⟩)
      refine ⟨concludes none (congrArg Prod.fst breaks), ?_⟩
      rw [leaves begun, Poll.leaves, ← recordOf_eq_getD, breaks]
      rfl
    · intro document releases given parsed
      obtain ⟨fullyCaught, ends, synced⟩ :=
        Poll.syncedTo_of_ok enabled (given ▸ Source.read_of_ok parsed)
      exact ⟨fullyCaught, concludes _ ends, synced⟩

/-- A source whose records are kept in a file has failed twice, and its time is up: it offers two
shows, one of which it had offered before it failed. -/
theorem pass_recovers_in_file :
    let source : Source := { id := 5, name := "Shows".toList, url := [] }
    let settings : Settings := { sources := [{ source with id := 4, enabled := false }, source] }
    let now : Timestamp := .ofSeconds 1514900000
    let answer (_ : Source) : FetchAnswer := .ok (showsOn [1, 2])
    let status : SourceStatus :=
      { sourceId := 5, level := 2, disabledUntil := some now
        lastSyncMarker := some (.ofRelease (showOn source 1)) }
    let file : RecordFile := { version := 1, rows := some [StatusRow.ofStatus status] }
    (∀ record ∈ Poll.written now source (answer source) (some status),
      (StatusRow.ofStatus record).toStatus = record) ∧
    ((pass .file now answer settings).run.run file).1 =
      some [⟨5, "Shows".toList, .synced [showOn source 1, showOn source 2] true⟩] ∧
    ∃ after,
      StatusStore.file.Shows ((pass .file now answer settings).run.run file).2 after ∧
      (recordOf after 5).level = 1 ∧ (recordOf after 5).disabledUntil = none ∧
      (recordOf after 5).lastContinuousSync = some now := by
  intro source settings now answer status file
  have held : StatusStore.file.Shows file [status] :=
    RecordFile.shows_iff_holds.mpr ⟨_, rfl, by decide +kernel⟩
  have turn : settings.enabledSources = [] ++ source :: [] := rfl
  have read : FeedDocument.releases source (showsOn [1, 2]) =
      .ok [showOn source 1, showOn source 2] := by
    decide +kernel
  have kept : ∀ record ∈ Poll.written now source (answer source) (some status),
      (StatusRow.ofStatus record).toStatus = record := by
    have enabled : status.isDisabledAt now = false := by
      decide +kernel
    rw [Poll.written, Option.getD_some, Poll.conclusion_of_ok enabled (Source.read_of_ok read)]
    decide +kernel
  obtain ⟨inTurn, after, holds, _, polled⟩ :=
    pass_changes_record now answer settings StatusStore.works_file held
      (List.pairwise_singleton _ _) turn (fun _ absent => nomatch absent) kept
  have past : ∀ until_, status.disabledUntil = some until_ → until_ ≤ now := by
    rintro _ ⟨⟩
    exact le_rfl
  obtain ⟨fullyCaught, ends, synced⟩ := ((polled nofun).2 past).2.2.2.2 _ _ rfl read
  have caught : fullyCaught = true :=
    synced.fullyCaught_iff.mpr (.inr ⟨_, rfl, showOn source 1, .head _, by decide +kernel⟩)
  subst caught
  refine ⟨kept, ?_, after, holds, synced.level, synced.disabledUntil,
    synced.continuous.trans (if_pos ⟨List.cons_ne_nil _ _, rfl⟩)⟩
  rw [inTurn, ends]
  rfl

/-- A source that is due and whose document breaks the reading is neither skipped nor failed nor
synced. -/
theorem pass_breaks_on_spoiltFeed :
    let source : Source := { id := 5, name := "Rated".toList, url := "https://oznzb.com".toList }
    let settings : Settings := { sources := [source] }
    let now : Timestamp := .ofSeconds 1514900000
    let answer (_ : Source) : FetchAnswer := .ok FeedDocument.spoiltFeed
    settings.enabledSources = [] ++ source :: [] ∧
      (recordOf [] source.id).isDisabledAt now = false ∧
      (Poll.ofSource .memory now source).isAsked [] = true ∧
      ((ofSource .memory now answer source).run.run []).1 = none ∧
      ((pass .memory now answer settings).run.run []).1 = none ∧
      ((pass .memory now answer settings).run.run []).2 = [] := by
  decide +kernel

end SourceSync

end Curator
