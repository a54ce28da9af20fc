import Curator.Proofs.Health.Works
import Curator.Sync.Poll

/-! What a poll comes to. Between the steps of a poll other polls may change the store; as long as
they leave the record of its source alone, the poll ends as that record and the answer of the source
say, and changes no other record. A poll that is broken off has changed nothing, or comes to its end
all the same. -/
namespace Curator

/-- What a source offers that gave an answer: releases, or the reason why there are none. -/
def Source.read (source : Source) : FetchAnswer → Except (Failure FetchFailure) (List Release)
  | .error failure => .error (.reported failure)
  | .ok document =>
    match FeedDocument.releases source document with
    | .ok releases => .ok releases
    | .error (.reported fault) => .error (.reported { message := fault.message })
    | .error .crashed => .error .crashed

section

variable {source : Source} {document : List UInt8}

theorem Source.read_of_ok {releases : List Release}
    (parsed : FeedDocument.releases source document = .ok releases) :
    source.read (.ok document) = .ok releases := by
  rw [read, parsed]

theorem Source.read_of_reported {fault : Fault}
    (rejected : FeedDocument.releases source document = .error (.reported fault)) :
    source.read (.ok document) = .error (.reported { message := fault.message }) := by
  rw [read, rejected]

theorem Source.read_eq_crashed_iff {answer : FetchAnswer} :
    source.read answer = .error .crashed ↔
      ∃ document, answer = .ok document ∧
        FeedDocument.releases source document = .error .crashed := by
  cases answer with
  | error failure => simp [read]
  | ok document =>
    cases parsed : FeedDocument.releases source document with
    | ok releases => simp [read, parsed]
    | error failure => cases failure <;> simp [read, parsed]

end

/-- What a store that has records back as `readBack` says has for a source after a note. -/
def StatusNote.leaves (readBack : SourceStatus → SourceStatus) (now : Timestamp) (id : Int)
    (stored : Option SourceStatus) (note : StatusNote) : Option SourceStatus :=
  (note.change now (stored.getD { sourceId := id })).map readBack <|> stored

namespace Poll

/-- What is noted about a source that releases were read from. -/
def successNotes (releases : List Release) (fullyCaught : Bool) : List StatusNote :=
  .success :: (newest? releases).toList.map fun newest =>
    .checkpoint (.ofRelease newest) fullyCaught

/-- What becomes of a source with a record when it is polled, unless the poll breaks down, and what
is noted about it. -/
def conclusion (now : Timestamp) (source : Source) (answer : FetchAnswer) (status : SourceStatus) :
    Option SyncOutcome × List StatusNote :=
  if status.isDisabledAt now then (some .skipped, [])
  else
    match source.read answer with
    | .error (.reported failure) => (some (.failed failure.message), [.failure failure.retryAfter])
    | .error .crashed => (none, [])
    | .ok releases =>
      let fullyCaught := isCaught status.lastSyncMarker releases
      (some (.synced releases fullyCaught), successNotes releases fullyCaught)

/-- What becomes of a source when it is polled, by what is stored for it. -/
def outcomeOf (now : Timestamp) (source : Source) (answer : FetchAnswer)
    (stored : Option SourceStatus) : Option SyncOutcome :=
  (conclusion now source answer (stored.getD { sourceId := source.id })).1

/-- The poll of a source breaks down: the source is asked, and sends what breaks the reading. -/
structure BreaksDown (now : Timestamp) (source : Source) (answer : FetchAnswer)
    (stored : Option SourceStatus) : Prop where
  isDue : (stored.getD { sourceId := source.id }).isDisabledAt now = false
  document : ∃ document, answer = .ok document ∧
    FeedDocument.releases source document = .error .crashed

theorem outcomeOf_eq_none_iff {now : Timestamp} {source : Source} {answer : FetchAnswer}
    {stored : Option SourceStatus} :
    outcomeOf now source answer stored = none ↔ BreaksDown now source answer stored := by
  have crashed : outcomeOf now source answer stored = none ↔
      (stored.getD { sourceId := source.id }).isDisabledAt now = false ∧
        source.read answer = .error .crashed := by
    unfold outcomeOf conclusion
    cases (stored.getD { sourceId := source.id }).isDisabledAt now with
    | true => simp
    | false =>
      cases source.read answer with
      | ok releases => simp
      | error failure => cases failure <;> simp
  rw [crashed, Source.read_eq_crashed_iff]
  exact ⟨fun both => ⟨both.1, both.2⟩, fun breaks => ⟨breaks.isDue, breaks.document⟩⟩

/-- What is stored for a source once it was polled, by what was stored for it, in a store that has
records back as `readBack` says. -/
def leaves (readBack : SourceStatus → SourceStatus) (now : Timestamp) (source : Source)
    (answer : FetchAnswer) (stored : Option SourceStatus) : Option SourceStatus :=
  (conclusion now source answer (stored.getD { sourceId := source.id })).2.foldl
    (StatusNote.leaves readBack now source.id) stored

variable {σ : Type}

/-- A poll that leads from what is stored for its source to an outcome and to what is stored then,
as long as nobody else changes that. Wherever it may be broken off, `original` is still stored. -/
inductive Settles (store : StatusStore σ) (id : Int) (answer : FetchAnswer)
    (original : Option SourceStatus) :
    Poll σ → Option SourceStatus → Option SyncOutcome → Option SourceStatus → Prop where
  | finished (outcome : Option SyncOutcome) (stored : Option SourceStatus) :
    Settles store id answer original (.finished outcome) stored outcome stored
  | fetch {next : FetchAnswer → Poll σ} {final : Option SourceStatus}
      {outcome : Option SyncOutcome}
      (later : Settles store id answer original (next answer) original outcome final) :
    Settles store id answer original (.fetch next) original outcome final
  | visit {goesOn : Bool} {change : σ → σ} {next : σ → Poll σ} {rest : Poll σ}
      {stored final : Option SourceStatus} {outcome : Option SyncOutcome}
      (written : Option SourceStatus) (own : ∀ record ∈ written, record.sourceId = id)
      (untouched : goesOn = false → stored = original)
      (does : ∀ contents records, store.Shows contents records → recordOf? records id = stored →
        next contents = rest ∧ store.Shows (change contents) (recordsWith written records))
      (later : Settles store id answer original rest (written <|> stored) outcome final) :
    Settles store id answer original (.visit goesOn change next) stored outcome final

/-- A poll that leaves what is stored for a source alone, whatever it comes upon. -/
inductive Spares (store : StatusStore σ) (id : Int) : Poll σ → Prop where
  | finished (outcome : Option SyncOutcome) : Spares store id (.finished outcome)
  | fetch {next : FetchAnswer → Poll σ} (later : ∀ answer, Spares store id (next answer)) :
    Spares store id (.fetch next)
  | visit {goesOn : Bool} {change : σ → σ} {next : σ → Poll σ}
      (does : ∀ contents records, store.Shows contents records →
        ∃ written, (∀ record ∈ written, record.sourceId ≠ id) ∧
          store.Shows (change contents) (recordsWith written records))
      (later : ∀ contents records, store.Shows contents records → Spares store id (next contents)) :
    Spares store id (.visit goesOn change next)

/-- How a poll is left, and what is stored for its source then: it has come to its end, or was
broken off before it changed anything. -/
inductive IsLeft (original : Option SourceStatus) (outcome : Option SyncOutcome)
    (final : Option SourceStatus) : Poll σ → Option SourceStatus → Prop where
  | finished : IsLeft original outcome final (.finished outcome) final
  | brokenOff {poll : Poll σ} (unfinished : ∀ outcome, poll ≠ .finished outcome) :
    IsLeft original outcome final poll original

variable {store : StatusStore σ} {readBack : SourceStatus → SourceStatus} {id : Int}
  {answer : FetchAnswer} {original stored final : Option SourceStatus}
  {outcome : Option SyncOutcome} {contents : σ} {records : List SourceStatus} {poll : Poll σ}
  {goesOn : Bool}

theorem IsLeft.of_finished {record : Option SourceStatus} {ended : Option SyncOutcome}
    (left : IsLeft original outcome final poll record) (ends : poll = .finished ended) :
    outcome = ended ∧ record = final := by
  cases left with
  | finished => exact ⟨Poll.finished.inj ends, rfl⟩
  | brokenOff unfinished => exact absurd ends (unfinished ended)

theorem IsLeft.outcome?_and_record {record : Option SourceStatus}
    (left : IsLeft original outcome final poll record) :
    poll.outcome? = none ∧ record = original ∨ poll.outcome? = outcome ∧ record = final := by
  cases left with
  | finished => exact .inr ⟨rfl, rfl⟩
  | brokenOff unfinished =>
    cases poll with
    | finished outcome => exact absurd rfl (unfinished outcome)
    | fetch next => exact .inl ⟨rfl, rfl⟩
    | visit goesOn change next => exact .inl ⟨rfl, rfl⟩

theorem Settles.advance (settles : Settles store id answer original poll stored outcome final)
    (shows : store.Shows contents records) (ordered : Ordered records)
    (found : recordOf? records id = stored) :
    ∃ after, store.Shows (poll.advance answer contents).2 after ∧ Ordered after ∧
      Settles store id answer original (poll.advance answer contents).1 (recordOf? after id)
        outcome final := by
  cases settles with
  | finished outcome stored => exact ⟨records, shows, ordered, found ▸ .finished outcome _⟩
  | fetch later => exact ⟨records, shows, ordered, found ▸ later⟩
  | visit written own untouched does later =>
    obtain ⟨goesOn, showsThen⟩ := does contents records shows found
    refine ⟨recordsWith written records, showsThen, ordered.recordsWith written, ?_⟩
    rw [recordOf?_recordsWith_own own, found, Poll.advance, goesOn]
    exact later

/-- A step of a poll that leaves the record of a source alone. -/
theorem Spares.advance (spares : Spares store id poll) (answer : FetchAnswer)
    (shows : store.Shows contents records) (ordered : Ordered records) :
    ∃ after, store.Shows (poll.advance answer contents).2 after ∧ Ordered after ∧
      recordOf? after id = recordOf? records id ∧
      Spares store id (poll.advance answer contents).1 := by
  cases spares with
  | finished outcome => exact ⟨records, shows, ordered, rfl, .finished outcome⟩
  | fetch later => exact ⟨records, shows, ordered, rfl, later answer⟩
  | visit does later =>
    obtain ⟨written, other, showsThen⟩ := does contents records shows
    exact ⟨recordsWith written records, showsThen, ordered.recordsWith written,
      recordOf?_recordsWith_other other records, later contents records shows⟩

theorem Settles.run (settles : Settles store id answer original poll stored outcome final)
    (shows : store.Shows contents records) (ordered : Ordered records)
    (found : recordOf? records id = stored) :
    (poll.run answer contents).1 = outcome ∧
      ∃ after, store.Shows (poll.run answer contents).2 after ∧ Ordered after ∧
        recordOf? after id = final := by
  induction settles generalizing contents records with
  | finished outcome stored => exact ⟨rfl, records, shows, ordered, found⟩
  | fetch later ih => exact ih shows ordered found
  | visit written own untouched does later ih =>
    obtain ⟨goesOn, showsThen⟩ := does contents records shows found
    rw [Poll.run, goesOn]
    exact ih showsThen (ordered.recordsWith written)
      (by rw [recordOf?_recordsWith_own own, found])

/-- All steps in a row of a poll that leaves the record of a source alone. -/
theorem Spares.run (spares : Spares store id poll) (answer : FetchAnswer)
    (shows : store.Shows contents records) (ordered : Ordered records) :
    ∃ after, store.Shows (poll.run answer contents).2 after ∧ Ordered after ∧
      recordOf? after id = recordOf? records id := by
  induction spares generalizing contents records with
  | finished outcome => exact ⟨records, shows, ordered, rfl⟩
  | fetch later ih => exact ih answer shows ordered
  | visit does later ih =>
    obtain ⟨written, other, showsThen⟩ := does contents records shows
    obtain ⟨after, showsAfter, orderedAfter, same⟩ :=
      ih contents records shows showsThen (ordered.recordsWith written)
    exact ⟨after, showsAfter, orderedAfter,
      same.trans (recordOf?_recordsWith_other other records)⟩

/-- The steps that the poll of a source still makes when it is broken off. -/
theorem Settles.breakOff (settles : Settles store id answer original poll stored outcome final)
    (shows : store.Shows contents records) (ordered : Ordered records)
    (found : recordOf? records id = stored) :
    ∃ after, store.Shows (poll.breakOff contents).2 after ∧ Ordered after ∧
      IsLeft original outcome final (poll.breakOff contents).1 (recordOf? after id) := by
  induction settles generalizing contents records with
  | finished outcome stored => exact ⟨records, shows, ordered, found ▸ .finished⟩
  | fetch later ih => exact ⟨records, shows, ordered, found ▸ .brokenOff nofun⟩
  | @visit goesOn _ _ _ _ _ _ written own untouched does later ih =>
    cases goesOn with
    | false => exact ⟨records, shows, ordered, untouched rfl ▸ found ▸ .brokenOff nofun⟩
    | true =>
      obtain ⟨leads, showsThen⟩ := does contents records shows found
      rw [Poll.breakOff, leads]
      exact ih showsThen (ordered.recordsWith written)
        (by rw [recordOf?_recordsWith_own own, found])

theorem Spares.breakOff (spares : Spares store id poll)
    (shows : store.Shows contents records) (ordered : Ordered records) :
    ∃ after, store.Shows (poll.breakOff contents).2 after ∧ Ordered after ∧
      recordOf? after id = recordOf? records id := by
  induction spares generalizing contents records with
  | finished outcome => exact ⟨records, shows, ordered, rfl⟩
  | fetch later ih => exact ⟨records, shows, ordered, rfl⟩
  | @visit goesOn _ _ does later ih =>
    cases goesOn with
    | false => exact ⟨records, shows, ordered, rfl⟩
    | true =>
      obtain ⟨written, other, showsThen⟩ := does contents records shows
      obtain ⟨after, showsAfter, orderedAfter, same⟩ :=
        ih contents records shows showsThen (ordered.recordsWith written)
      exact ⟨after, showsAfter, orderedAfter,
        same.trans (recordOf?_recordsWith_other other records)⟩

theorem Settles.look {α : Type} {action : StoreAction σ α}
    {next : Except StoreFailure α → Poll σ} (value : α)
    (untouched : goesOn = false → stored = original)
    (finds : ∀ contents records, store.Shows contents records → recordOf? records id = stored →
      action.run.run contents = (.ok value, contents))
    (later : Settles store id answer original (next (.ok value)) stored outcome final) :
    Settles store id answer original (attempt goesOn action next) stored outcome final := by
  refine .visit none (fun _ absent => nomatch absent) untouched ?_ later
  intro contents records shows found
  rw [finds contents records shows found]
  exact ⟨rfl, shows⟩

theorem Settles.write (works : store.Works readBack) {record : SourceStatus}
    {next : Except StoreFailure Unit → Poll σ} (own : record.sourceId = id)
    (later : Settles store id answer original (next (.ok ())) (some (readBack record)) outcome
      final) :
    Settles store id answer original (attempt true (store.upsert record) next) stored outcome
      final := by
  refine .visit (some (readBack record)) ?_ nofun ?_ later
  · rintro _ ⟨⟩
    exact (works.sourceId_readBack record).trans own
  · intro contents records shows _
    obtain ⟨left, upserted, showsThen⟩ := works.upsert contents records record shows
    rw [upserted]
    exact ⟨rfl, showsThen⟩

theorem Spares.look {α : Type} {action : StoreAction σ α} {next : Except StoreFailure α → Poll σ}
    (finds : ∀ contents records, store.Shows contents records →
      ∃ value, action.run.run contents = (.ok value, contents) ∧
        Spares store id (next (.ok value))) :
    Spares store id (attempt goesOn action next) := by
  refine .visit ?_ ?_
  · intro contents records shows
    obtain ⟨value, read, _⟩ := finds contents records shows
    exact ⟨none, fun _ absent => (nomatch absent), by rw [read]; exact shows⟩
  · intro contents records shows
    obtain ⟨value, read, later⟩ := finds contents records shows
    rw [read]
    exact later

theorem Spares.write (works : store.Works readBack) {record : SourceStatus}
    {next : Except StoreFailure Unit → Poll σ} (other : record.sourceId ≠ id)
    (later : Spares store id (next (.ok ()))) :
    Spares store id (attempt goesOn (store.upsert record) next) := by
  refine .visit ?_ ?_
  · intro contents records shows
    obtain ⟨left, upserted, showsThen⟩ := works.upsert contents records record shows
    refine ⟨some (readBack record), ?_, by rw [upserted]; exact showsThen⟩
    rintro _ ⟨⟩
    exact fun same => other ((works.sourceId_readBack record).symm.trans same)
  · intro contents records shows
    obtain ⟨left, upserted, _⟩ := works.upsert contents records record shows
    rw [upserted]
    exact later

theorem Settles.note (works : store.Works readBack) (now : Timestamp) (note : StatusNote)
    {next : Except StoreFailure Unit → Poll σ}
    (own : ∀ record ∈ stored, record.sourceId = id)
    (untouched : goesOn = false → stored = original)
    (later : ∀ result, result = .ok () ∨ result = note.otherwise →
      Settles store id answer original (next result) (note.leaves readBack now id stored) outcome
        final) :
    Settles store id answer original
      (update store id goesOn (note.change now) note.otherwise next) stored outcome final := by
  apply Settles.look (stored.getD { sourceId := id }) untouched
  · rintro contents records shows rfl
    exact shows.status id
  · have ownStatus : (stored.getD { sourceId := id }).sourceId = id := by
      cases stored with
      | none => rfl
      | some record => exact own record rfl
    unfold StatusNote.leaves at later
    dsimp only
    cases noted : note.change now (stored.getD { sourceId := id }) with
    | none => simpa [noted] using later note.otherwise (.inr rfl)
    | some changed =>
      apply Settles.write works ((StatusNote.change_sourceId noted).trans ownStatus)
      simpa [noted] using later (.ok ()) (.inl rfl)

theorem Spares.note (works : store.Works readBack) (now : Timestamp) (note : StatusNote)
    {other : Int} {next : Except StoreFailure Unit → Poll σ} (different : other ≠ id)
    (later : ∀ result, Spares store id (next result)) :
    Spares store id (update store other goesOn (note.change now) note.otherwise next) := by
  apply Spares.look
  intro contents records shows
  refine ⟨_, shows.status other, ?_⟩
  dsimp only
  cases noted : note.change now (recordOf records other) with
  | none => exact later _
  | some changed =>
    apply Spares.write works _ (later _)
    rw [StatusNote.change_sourceId noted, sourceId_recordOf]
    exact different

theorem sourceId_leaves (works : store.Works readBack) {now : Timestamp} {note : StatusNote}
    (own : ∀ record ∈ stored, record.sourceId = id) :
    ∀ record ∈ note.leaves readBack now id stored, record.sourceId = id := by
  intro record left
  cases noted : note.change now (stored.getD { sourceId := id }) with
  | none => exact own record (by simpa [StatusNote.leaves, noted] using left)
  | some changed =>
    have same : readBack changed = record := by simpa [StatusNote.leaves, noted] using left
    rw [← same, works.sourceId_readBack, StatusNote.change_sourceId noted]
    cases stored with
    | none => rfl
    | some before => exact own before rfl

theorem settles_succeed (works : store.Works readBack) (now : Timestamp) (releases : List Release)
    (fullyCaught : Bool) (own : ∀ record ∈ original, record.sourceId = id) :
    Settles store id answer original (succeed store now id releases fullyCaught) original
      (some (.synced releases fullyCaught))
      ((successNotes releases fullyCaught).foldl (StatusNote.leaves readBack now id) original) := by
  apply Settles.note works now .success own fun _ => rfl
  intro result done
  obtain rfl : result = .ok () := or_self_iff.mp done
  unfold successNotes
  dsimp only
  cases newest? releases with
  | none => exact .finished _ _
  | some newest =>
    exact Settles.note works now (.checkpoint (.ofRelease newest) fullyCaught)
      (sourceId_leaves works own) nofun fun _ _ => .finished _ _

theorem spares_succeed (works : store.Works readBack) (now : Timestamp) {other : Int}
    (different : other ≠ id) (releases : List Release) (fullyCaught : Bool) :
    Spares store id (succeed store now other releases fullyCaught) := by
  apply Spares.note works now .success different
  intro result
  split
  · exact .finished _
  · cases newest? releases with
    | none => exact .finished _
    | some newest =>
      exact Spares.note works now (.checkpoint (.ofRelease newest) fullyCaught) different
        fun _ => .finished _

/-- A poll ends as the record of its source and the answer of the source say. -/
theorem settles_ofSource (works : store.Works readBack) (now : Timestamp) (source : Source)
    (answer : FetchAnswer) (own : ∀ record ∈ stored, record.sourceId = source.id) :
    Settles store source.id answer stored (ofSource store now source) stored
      (outcomeOf now source answer stored) (leaves readBack now source answer stored) := by
  -- Other polls may come before each look at the store; it tells the same about this source.
  apply Settles.look ((stored.getD { sourceId := source.id }).isDisabledAt now) fun _ => rfl
  · rintro contents records shows rfl
    exact shows.isBlocked now source.id
  unfold outcomeOf leaves conclusion
  cases (stored.getD { sourceId := source.id }).isDisabledAt now with
  | true => exact .finished (some .skipped) stored
  | false =>
    apply Settles.fetch
    have fails : ∀ (minimum : Option Nat) (message : String),
        Settles store source.id answer stored (fail store now source.id minimum message) stored
          (some (.failed message))
          ((StatusNote.failure minimum).leaves readBack now source.id stored) :=
      fun minimum message => Settles.note works now (.failure minimum) own (fun _ => rfl)
        fun _ _ => .finished _ _
    cases answer with
    | error failure => exact fails failure.retryAfter failure.message
    | ok document =>
      unfold receive Source.read
      dsimp only
      cases FeedDocument.releases source document with
      | error failure =>
        cases failure with
        | reported fault => exact fails none fault.message
        | crashed => exact .finished none stored
      | ok releases =>
        apply Settles.look (stored.getD { sourceId := source.id }) fun _ => rfl
        · rintro contents records shows rfl
          exact shows.status source.id
        exact settles_succeed works now releases _ own

theorem spares_ofSource (works : store.Works readBack) (now : Timestamp) {source : Source}
    (different : source.id ≠ id) : Spares store id (ofSource store now source) := by
  apply Spares.look
  intro contents records shows
  refine ⟨_, shows.isBlocked now source.id, ?_⟩
  have fails : ∀ (minimum : Option Nat) (message : String),
      Spares store id (fail store now source.id minimum message) :=
    fun minimum message => Spares.note works now (.failure minimum) different
      fun _ => .finished _
  cases (recordOf records source.id).isDisabledAt now with
  | true => exact .finished (some .skipped)
  | false =>
    apply Spares.fetch
    intro answer
    cases answer with
    | error failure => exact fails failure.retryAfter failure.message
    | ok document =>
      unfold receive
      dsimp only
      cases FeedDocument.releases source document with
      | error failure =>
        cases failure with
        | reported fault => exact fails none fault.message
        | crashed => exact .finished none
      | ok releases =>
        apply Spares.look
        intro contents records shows
        exact ⟨_, shows.status source.id, spares_succeed works now different releases _⟩

end Poll

end Curator
