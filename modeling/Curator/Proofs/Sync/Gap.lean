import Curator.Proofs.Sync.Record
import Curator.Proofs.Sync.Run
import Mathlib.Data.List.Chain
import Mathlib.Order.Interval.Set.Basic

/-! Gaps in what is read from a source. A source offers a few of its releases at a time, and is
asked in one pass after the other. When a release is offered again that was the newest one of the
last reading, nothing that was published since then was missed. -/
namespace Curator

/-- The releases of a source in the order in which they are published. -/
structure ReleaseStream (ι : Type) [LinearOrder ι] where
  release : ι → Release
  increasing : StrictMono fun index => (release index).publishDate
  guid_injective : ∀ {left right guid}, (release left).guid = some guid →
    (release right).guid = some guid → left = right

structure Reading where
  releases : List Release
  fullyCaught : Bool
  nonempty : releases ≠ []

namespace ReleaseStream

variable {ι : Type} [LinearOrder ι] {stream : ReleaseStream ι}

/-- Releases that are published one after the other, in any order. -/
def IsRun (stream : ReleaseStream ι) (releases : List Release) : Prop :=
  ∃ first last, {release | release ∈ releases} = stream.release '' Set.Icc first last

/-- If the later reading is said to miss nothing, then it has all releases from the newest one of
the earlier reading up to its own newest one. -/
def WithoutGap (stream : ReleaseStream ι) (earlier later : Reading) : Prop :=
  later.fullyCaught = true → ∀ index,
    (∀ older ∈ earlier.releases, older.publishDate ≤ (stream.release index).publishDate) →
    (∃ newer ∈ later.releases, (stream.release index).publishDate ≤ newer.publishDate) →
    stream.release index ∈ later.releases

theorem IsRun.mem_iff {releases : List Release} (run : stream.IsRun releases) :
    ∃ first last, ∀ release, release ∈ releases ↔
      ∃ index, (first ≤ index ∧ index ≤ last) ∧ stream.release index = release := by
  obtain ⟨first, last, same⟩ := run
  exact ⟨first, last, fun release => Set.ext_iff.mp same release⟩

theorem isRun_of {releases : List Release} (first last : ι)
    (within : ∀ release ∈ releases,
      ∃ index, (first ≤ index ∧ index ≤ last) ∧ stream.release index = release)
    (all : ∀ index, first ≤ index ∧ index ≤ last → stream.release index ∈ releases) :
    stream.IsRun releases := by
  refine ⟨first, last, Set.ext fun release => ⟨within release, ?_⟩⟩
  rintro ⟨index, inside, rfl⟩
  exact all index inside

/-- The marker of a release of the stream stands for no other one. -/
theorem eq_of_isOf {left right : ι}
    (isOf : (ReleaseMarker.ofRelease (stream.release left)).isOf (stream.release right) = true) :
    left = right := by
  unfold ReleaseMarker.isOf at isOf
  split at isOf
  · rename_i remembered announced known named
    cases beq_iff_eq.mp isOf
    exact stream.guid_injective known named
  · rw [Bool.and_eq_true, beq_iff_eq, beq_iff_eq] at isOf
    exact stream.increasing.injective isOf.2

/-- A run that has a release of an earlier run again has all that lies between. -/
theorem withoutGap_of_isOf {earlier later : Reading} (before : stream.IsRun earlier.releases)
    (run : stream.IsRun later.releases) {newest : Release} (known : newest ∈ earlier.releases)
    (again : later.fullyCaught = true →
      ∃ release ∈ later.releases, (ReleaseMarker.ofRelease newest).isOf release = true) :
    stream.WithoutGap earlier later := by
  intro caught index notOlder ⟨newer, offered, notNewer⟩
  obtain ⟨_, _, memBefore⟩ := before.mem_iff
  obtain ⟨first, last, mem⟩ := run.mem_iff
  obtain ⟨place, _, rfl⟩ := (memBefore newest).mp known
  obtain ⟨release, seen, isOf⟩ := again caught
  obtain ⟨same, ⟨fromFirst, _⟩, rfl⟩ := (mem release).mp seen
  obtain ⟨upper, ⟨_, upToLast⟩, rfl⟩ := (mem newer).mp offered
  have above : place ≤ index := stream.increasing.le_iff_le.mp (notOlder _ known)
  have below : index ≤ upper := stream.increasing.le_iff_le.mp notNewer
  cases eq_of_isOf isOf
  exact (mem _).mpr ⟨index, ⟨fromFirst.trans above, below.trans upToLast⟩, rfl⟩

end ReleaseStream

/-- What was read from a source, if it was anything. -/
def SyncOutcome.reading? : SyncOutcome → Option Reading
  | .synced (release :: releases) fullyCaught =>
    some ⟨release :: releases, fullyCaught, List.cons_ne_nil release releases⟩
  | _ => none

theorem SyncOutcome.reading?_synced {releases : List Release} (nonempty : releases ≠ [])
    (fullyCaught : Bool) :
    (synced releases fullyCaught).reading? = some ⟨releases, fullyCaught, nonempty⟩ := by
  cases releases with
  | nil => exact absurd rfl nonempty
  | cons release releases => rfl

namespace SourceStatus

/-- The newest release of a reading is remembered. -/
def Remembers (status : SourceStatus) (reading : Reading) : Prop :=
  ∃ newest : Release, newest.IsNewestOf reading.releases ∧
    status.lastSyncMarker = some (.ofRelease newest)

/-- What is remembered of a source before and after a pass, and what was read from it. -/
structure Follows (before : SourceStatus) (now : Timestamp) (reading? : Option Reading)
    (after : SourceStatus) : Prop where
  stays : reading? = none → after.lastSyncMarker = before.lastSyncMarker
  remembers : ∀ reading ∈ reading?, after.Remembers reading
  again : ∀ reading ∈ reading?, reading.fullyCaught = true →
    ∀ marker, before.lastSyncMarker = some marker →
      ∃ release ∈ reading.releases, marker.isOf release = true
  continuous : after.lastContinuousSync = before.lastContinuousSync ∨
    ∃ reading ∈ reading?, reading.fullyCaught = true ∧ after.lastContinuousSync = some now

theorem follows_of_none {before after : SourceStatus} {now : Timestamp}
    (marker : after.lastSyncMarker = before.lastSyncMarker)
    (continuous : after.lastContinuousSync = before.lastContinuousSync) :
    before.Follows now none after where
  stays _ := marker
  remembers _ absent := nomatch absent
  again _ absent := nomatch absent
  continuous := .inl continuous

theorem SyncedTo.follows {before after : SourceStatus} {now : Timestamp} {releases : List Release}
    {fullyCaught : Bool} (synced : before.SyncedTo now releases fullyCaught after) :
    before.Follows now (SyncOutcome.synced releases fullyCaught).reading? after := by
  by_cases empty : releases = []
  · have continuous := synced.continuous.trans (if_neg fun both => both.1 empty)
    rw [empty]
    exact follows_of_none (synced.marker_of_nil empty) continuous
  · rw [SyncOutcome.reading?_synced empty]
    refine ⟨nofun, ?_, ?_, ?_⟩
    · rintro _ ⟨⟩
      exact synced.marker empty
    · rintro _ ⟨⟩ caught marker known
      rcases synced.fullyCaught_iff.mp caught with unknown | ⟨same, found, seen⟩
      · cases unknown.symm.trans known
      · cases found.symm.trans known
        exact seen
    · by_cases caught : fullyCaught = true
      · exact .inr ⟨_, rfl, caught, synced.continuous.trans (if_pos ⟨empty, caught⟩)⟩
      · exact .inl (synced.continuous.trans (if_neg fun both => caught both.2))

end SourceStatus

theorem Poll.follows_conclusion (now : Timestamp) (source : Source) (answer : FetchAnswer)
    (status : SourceStatus) :
    status.Follows now ((conclusion now source answer status).1.bind SyncOutcome.reading?)
      ((conclusion now source answer status).2.foldl (StatusNote.apply now) status) := by
  cases disabled : status.isDisabledAt now with
  | true =>
    rw [conclusion_of_disabled disabled]
    exact SourceStatus.follows_of_none rfl rfl
  | false =>
    cases read : source.read answer with
    | error failure =>
      cases failure with
      | reported failure =>
        obtain ⟨ends, failed⟩ := failedTo_of_reported disabled read
        rw [ends]
        exact SourceStatus.follows_of_none failed.lastSyncMarker failed.lastContinuousSync
      | crashed =>
        rw [conclusion_of_crashed disabled read]
        exact SourceStatus.follows_of_none rfl rfl
    | ok releases =>
      obtain ⟨fullyCaught, ends, synced⟩ := syncedTo_of_ok disabled read
      rw [ends]
      exact synced.follows

namespace SourceSync

variable {σ : Type} {store : StatusStore σ} {readBack : SourceStatus → SourceStatus}
  {contents : σ} {records : List SourceStatus} {settings : Settings} {source : Source}

/-- What a pass makes of what is remembered of a source that shares its id with no other one. -/
theorem follows_sideBySide (now : Timestamp) (answer : Source → FetchAnswer)
    (works : store.Works readBack) (shows : store.Shows contents records)
    (ordered : Ordered records)
    (alone : (settings.enabledSources.filter (·.id == source.id)).Sublist [source])
    (kept : ∀ record ∈ Poll.written now source (answer source) (recordOf? records source.id),
      readBack record = record)
    (places : List Nat) :
    ∃ after, store.Shows (sideBySide store now answer settings places contents).2 after ∧
      Ordered after ∧ (recordOf records source.id).Follows now
        ((outcome? source.id
          (sideBySide store now answer settings places contents).1).bind SyncOutcome.reading?)
        (recordOf after source.id) := by
  obtain ⟨after, showsAfter, orderedAfter, unused | polled⟩ :=
    outcome?_sideBySide now answer works shows ordered alone places
  · refine ⟨after, showsAfter, orderedAfter, ?_⟩
    rw [unused.1, recordOf_eq_getD after, unused.2]
    exact SourceStatus.follows_of_none rfl rfl
  · refine ⟨after, showsAfter, orderedAfter, ?_⟩
    rw [polled.1, Poll.recordOf_of_leaves kept polled.2]
    exact Poll.follows_conclusion now source (answer source) (recordOf records source.id)

def Trace.reading? (id : Int) (trace : Trace σ) : Option Reading :=
  (outcome? id trace.polls).bind SyncOutcome.reading?

/-- What was read from a source in the passes of a run, as far as it was anything. -/
def readings (id : Int) (traces : List (Trace σ)) : List Reading :=
  traces.filterMap (Trace.reading? id)

/-- Passes of a run whose store has a record of a source to begin with. -/
inductive Recalls (store : StatusStore σ) (id : Int) : SourceStatus → List (Trace σ) → Prop where
  | nil (status : SourceStatus) : Recalls store id status []
  | cons {trace : Trace σ} {traces : List (Trace σ)} {before after : SourceStatus}
      (begins : (store.status id).run.run trace.begins = (.ok before, trace.begins))
      (ends : (store.status id).run.run trace.ends = (.ok after, trace.ends))
      (follows : before.Follows trace.round.now (trace.reading? id) after)
      (later : Recalls store id after traces) :
    Recalls store id before (trace :: traces)

theorem recalls_traces (works : store.Works readBack) (shows : store.Shows contents records)
    (ordered : Ordered records) {rounds : List Round}
    (alone : ∀ round ∈ rounds,
      (round.settings.enabledSources.filter (·.id == source.id)).Sublist [source])
    (kept : ∀ trace ∈ traces store rounds contents,
      ∀ stored, store.lookUp trace.begins source.id = .ok stored →
      ∀ record ∈ Poll.written trace.round.now source (trace.round.answer source) stored,
        readBack record = record) :
    Recalls store source.id (recordOf records source.id) (traces store rounds contents) := by
  induction rounds generalizing contents records with
  | nil => exact .nil _
  | cons round rounds ih =>
    obtain ⟨between, showsThen, orderedThen, follows⟩ :=
      follows_sideBySide round.now round.answer works shows ordered
        (alone round List.mem_cons_self)
        (kept _ List.mem_cons_self _ (shows.lookUp source.id)) round.places
    exact .cons (shows.status source.id) (showsThen.status source.id) follows
      (ih showsThen orderedThen (fun later member => alone later (List.mem_cons_of_mem _ member))
        fun trace member => kept trace (List.mem_cons_of_mem _ member))

variable {ι : Type} [LinearOrder ι] {stream : ReleaseStream ι} {id : Int}
  {status : SourceStatus} {passes : List (Trace σ)}

/-- The readings of a run follow each other without a gap, and the first of them follows the one
that is remembered when the run begins. -/
theorem Recalls.isChain (recalls : Recalls store id status passes) (last? : Option Reading)
    (remembers : ∀ reading ∈ last?, status.Remembers reading)
    (runs : ∀ reading ∈ last?.toList ++ readings id passes, stream.IsRun reading.releases) :
    (last?.toList ++ readings id passes).IsChain stream.WithoutGap := by
  -- The marker stands for the newest release of the last reading, and only a reading moves it.
  induction recalls generalizing last? with
  | nil status =>
    cases last? with
    | none => exact .nil
    | some last => exact .singleton last
  | @cons trace traces before after begins ends follows later ih =>
    unfold readings at runs ⊢
    rw [List.filterMap_cons] at runs ⊢
    cases read : trace.reading? id with
    | none =>
      rw [read] at runs follows
      refine ih last? ?_ runs
      intro reading known
      obtain ⟨newest, isNewest, marker⟩ := remembers reading known
      exact ⟨newest, isNewest, (follows.stays rfl).trans marker⟩
    | some reading =>
      rw [read] at runs follows
      have runsThen := fun other member => runs other (List.mem_append_right _ member)
      have chain := ih (some reading) (fun _ known => follows.remembers _ known) runsThen
      cases last? with
      | none => exact chain
      | some last =>
        refine List.isChain_cons_cons.mpr ⟨?_, chain⟩
        obtain ⟨newest, isNewest, marker⟩ := remembers last rfl
        exact ReleaseStream.withoutGap_of_isOf (runs last List.mem_cons_self)
          (runsThen reading List.mem_cons_self) isNewest.mem
          fun caught => follows.again reading rfl caught _ marker

theorem Recalls.continuous (recalls : Recalls store id status passes) :
    ∀ trace ∈ passes, ∃ before after,
      (store.status id).run.run trace.begins = (.ok before, trace.begins) ∧
      (store.status id).run.run trace.ends = (.ok after, trace.ends) ∧
      (after.lastContinuousSync = before.lastContinuousSync ∨
        ∃ reading ∈ trace.reading? id, reading.fullyCaught = true ∧
          after.lastContinuousSync = some trace.round.now) := by
  induction recalls with
  | nil status => exact fun _ absent => nomatch absent
  | cons begins ends follows later ih =>
    intro trace member
    rcases List.mem_cons.mp member with rfl | earlier
    · exact ⟨_, _, begins, ends, follows.continuous⟩
    · exact ih trace earlier

/-- Gaps are found: however many passes of a run fail, are skipped or have nothing to offer, a
reading that is said to miss nothing has all releases that were published since the newest one of
the reading before it. A pass notes that nothing was missed only if it is such a reading. That the
source never goes back to older releases need not be supposed: a run with the remembered release
does not end before it. -/
theorem traces_without_gap (stream : ReleaseStream ι) (source : Source)
    (works : store.Works readBack) (shows : store.Shows contents records)
    (ordered : Ordered records) {rounds : List Round}
    (alone : ∀ round ∈ rounds,
      (round.settings.enabledSources.filter (·.id == source.id)).Sublist [source])
    (kept : ∀ trace ∈ traces store rounds contents,
      ∀ stored, store.lookUp trace.begins source.id = .ok stored →
      ∀ record ∈ Poll.written trace.round.now source (trace.round.answer source) stored,
        readBack record = record)
    (runs : ∀ reading ∈ readings source.id (traces store rounds contents),
      stream.IsRun reading.releases) :
    (readings source.id (traces store rounds contents)).IsChain stream.WithoutGap ∧
      ∀ trace ∈ traces store rounds contents, ∃ before after,
        (store.status source.id).run.run trace.begins = (.ok before, trace.begins) ∧
        (store.status source.id).run.run trace.ends = (.ok after, trace.ends) ∧
        (after.lastContinuousSync = before.lastContinuousSync ∨
          ∃ reading ∈ trace.reading? source.id, reading.fullyCaught = true ∧
            after.lastContinuousSync = some trace.round.now) := by
  have recalls := recalls_traces works shows ordered alone kept
  exact ⟨recalls.isChain none (fun _ absent => nomatch absent) runs, recalls.continuous⟩

def januaryShows (source : Source) : ReleaseStream (Fin 9) where
  release day := showOn source day
  increasing := by
    intro left right below
    have later : (left : Int) < right := by exact_mod_cast below
    refine Timestamp.lt_iff.mpr (.inl ?_)
    simp only [showOn, Timestamp.ofSeconds, Timestamp.ofPosition]
    omega
  guid_injective := by
    have names : ∀ left right : Fin 9, s!"g{left.val}".toList = s!"g{right.val}".toList →
        left = right := by
      decide
    intro left right guid known same
    exact names left right (Option.some.inj (known.trans same.symm))

/-- A show is read; then the source fails once, is skipped, and has nothing to offer, before that
show is offered again with the next one. After them a show is missed. Another source fails each
time. -/
theorem traces_in_january :
    let source : Source := { id := 5, name := "Shows".toList, url := [] }
    let silent : Source := { id := 2, name := "Silent".toList, url := [] }
    let down : FetchAnswer := .error { message := "down" }
    let round (minute : Int) (answer : FetchAnswer) : Round :=
      { now := .ofSeconds (1514900000 + 60 * minute)
        settings := { sources := [silent, source] }
        answer := fun asked => if asked.id = 5 then answer else down
        places := [1, 0, 0, 1, 0] }
    let passes := traces .memory [round 0 (.ok (showsOn [1])), round 1 down, round 2 down,
      round 10 (.ok (showsOn [])), round 11 (.ok (showsOn [2, 1])),
      round 12 (.ok (showsOn [4]))] []
    let offered := [([1], true), ([2, 1], true), ([4], false)]
    (readings 5 passes).map (fun reading => (reading.releases, reading.fullyCaught)) =
        offered.map (fun (days, fullyCaught) => (days.map (showOn source), fullyCaught)) ∧
      (readings 5 passes).IsChain (januaryShows source).WithoutGap := by
  intro source silent down round passes offered
  have known : (readings 5 passes).map (fun reading => (reading.releases, reading.fullyCaught)) =
      offered.map (fun (days, fullyCaught) => (days.map (showOn source), fullyCaught)) := by
    decide +kernel
  have runs : ∀ read ∈
      offered.map (fun (days, fullyCaught) => (days.map (showOn source), fullyCaught)),
      (januaryShows source).IsRun read.1 := by
    simp only [offered, List.forall_mem_map, List.forall_mem_cons]
    exact ⟨ReleaseStream.isRun_of 1 1 (by decide) (by decide),
      ReleaseStream.isRun_of 1 2 (by decide) (by decide),
      ReleaseStream.isRun_of 4 4 (by decide) (by decide), fun _ absent => nomatch absent⟩
  rw [← known, List.forall_mem_map] at runs
  refine ⟨known, (traces_without_gap (januaryShows source) source StatusStore.works_memory
    (StatusStore.shows_memory []) List.Pairwise.nil ?_ ?_ runs).1⟩
  · decide
  · exact fun _ _ _ _ _ _ => rfl

end SourceSync

end Curator
