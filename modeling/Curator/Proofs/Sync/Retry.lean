import Curator.Proofs.Health.Quarantine
import Curator.Proofs.Sync.Asked
import Curator.Proofs.Sync.Record
import Curator.Proofs.Sync.Run

/-! How often a failing source is asked. The more polls of a source fail in a row, the longer no
pass asks it again; passes that skip it neither shorten nor lengthen this time. -/
namespace Curator.SourceSync

/-- What a pass makes of the record of a source. There is no poll of it that comes to an outcome, or
it is skipped while it is left alone, or it is asked: then it fails and is left alone for longer, or
it succeeds. -/
inductive Turn (id : Int) (round : Round) (before : SourceStatus) :
    Option SyncOutcome → SourceStatus → Prop where
  | unpolled : Turn id round before none before
  | skipped (early : before.isDisabledAt round.now = true) :
    Turn id round before (some .skipped) before
  | failed {source : Source} {failure : FetchFailure}
      (due : before.isDisabledAt round.now = false)
      (enabled : source ∈ round.settings.enabledSources) (own : source.id = id)
      (read : source.read (round.answer source) = .error (.reported failure)) :
    Turn id round before (some (.failed failure.message))
      ((StatusNote.failure failure.retryAfter).apply round.now before)
  | synced {releases : List Release} {fullyCaught : Bool} {after : SourceStatus}
      (due : before.isDisabledAt round.now = false)
      (recovers : before.SyncedTo round.now releases fullyCaught after) :
    Turn id round before (some (.synced releases fullyCaught)) after

/-- How many polls of a source failed in a row once a pass is over, when so many had failed
before. -/
def failuresAfter (count : Nat) : Option SyncOutcome → Nat
  | some (.failed _) => count + 1
  | some (.synced _ _) => 0
  | some .skipped => count
  | none => count

/-- A level that is no lower than the number of failures in a row, as far as levels go. -/
structure CountsFailures (count : Nat) (status : SourceStatus) : Prop where
  level_le : status.level ≤ highestLevel
  le_level : min count highestLevel ≤ status.level

variable {id : Int} {round : Round} {before after : SourceStatus} {outcome : Option SyncOutcome}
  {count : Nat}

theorem CountsFailures.fail (counts : CountsFailures count before) (now : Timestamp)
    (minimum : Option Nat) :
    CountsFailures (count + 1) ((StatusNote.failure minimum).apply now before) := by
  rw [StatusNote.apply_failure counts.level_le]
  refine ⟨(before.leftAlone_escalate now _).level_le, ?_⟩
  have above : levelAbove before.level ≤ (before.escalate now (minimum.getD 0)).level :=
    le_raiseLevel _ (levelAbove before.level)
  have least := counts.le_level
  simp only [levelAbove] at above
  omega

theorem Turn.countsFailures (turn : Turn id round before outcome after)
    (counts : CountsFailures count before) :
    CountsFailures (failuresAfter count outcome) after := by
  cases turn with
  | unpolled => exact counts
  | skipped early => exact counts
  | failed due enabled own read => exact counts.fail round.now _
  | synced due recovers =>
    refine ⟨?_, Nat.min_le_left _ _ |>.trans (Nat.zero_le _)⟩
    exact recovers.level ▸ (Nat.sub_le _ _).trans counts.level_le

/-- A pass before the time is up changes nothing, and skips the source if it polls it to the end. -/
theorem Turn.waits (turn : Turn id round before outcome after)
    (early : before.isDisabledAt round.now = true) :
    after = before ∧ (outcome = none ∨ outcome = some .skipped) := by
  cases turn with
  | unpolled => exact ⟨rfl, .inl rfl⟩
  | skipped early => exact ⟨rfl, .inr rfl⟩
  | failed due => exact Bool.noConfusion (early.symm.trans due)
  | synced due => exact Bool.noConfusion (early.symm.trans due)

variable {σ : Type} {store : StatusStore σ} {readBack : SourceStatus → SourceStatus}
  {contents : σ} {records : List SourceStatus}

theorem turn_of_conclusion {source : Source}
    (enabled : source ∈ round.settings.enabledSources) (own : source.id = id) :
    Turn id round before (Poll.conclusion round.now source (round.answer source) before).1
      ((Poll.conclusion round.now source (round.answer source) before).2.foldl
        (StatusNote.apply round.now) before) := by
  cases disabled : before.isDisabledAt round.now with
  | true =>
    rw [Poll.conclusion_of_disabled disabled]
    exact .skipped disabled
  | false =>
    cases read : source.read (round.answer source) with
    | error failure =>
      cases failure with
      | reported failure =>
        rw [Poll.conclusion_of_reported disabled read]
        exact .failed disabled enabled own read
      | crashed =>
        rw [Poll.conclusion_of_crashed disabled read]
        exact .unpolled
    | ok releases =>
      obtain ⟨fullyCaught, ends, synced⟩ := Poll.syncedTo_of_ok disabled read
      rw [ends]
      exact .synced disabled synced

/-- What a pass makes of the record of a source, whatever the order of the steps. -/
theorem turn_of_pass (round : Round) (id : Int) (works : store.Works readBack)
    (shows : store.Shows contents records) (ordered : Ordered records)
    (distinct : (round.settings.enabledSources.map (·.id)).Nodup)
    (kept : ∀ source ∈ round.settings.enabledSources, source.id = id →
      ∀ record ∈ Poll.written round.now source (round.answer source) (recordOf? records id),
        readBack record = record) :
    let pass := sideBySide store round.now round.answer round.settings round.places contents
    ∃ after, store.Shows pass.2 after ∧ Ordered after ∧
      Turn id round (recordOf records id) (outcome? id pass.1) (recordOf after id) := by
  intro pass
  by_cases used : ∃ source ∈ round.settings.enabledSources, source.id = id
  · obtain ⟨source, enabled, rfl⟩ := used
    obtain ⟨after, showsAfter, orderedAfter, ⟨ends, same⟩ | ⟨ends, leaves⟩⟩ :=
      outcome?_sideBySide round.now round.answer works shows ordered
        (filter_sublist_of_nodup distinct enabled) round.places
    · refine ⟨after, showsAfter, orderedAfter, ?_⟩
      rw [ends, recordOf_eq_getD after, same]
      exact .unpolled
    · refine ⟨after, showsAfter, orderedAfter, ?_⟩
      rw [ends, Poll.recordOf_of_leaves (kept source enabled rfl) leaves]
      exact turn_of_conclusion enabled rfl
  · have absent : ∀ source ∈ round.settings.enabledSources, source.id ≠ id :=
      fun source enabled own => used ⟨source, enabled, own⟩
    obtain ⟨after, showsAfter, orderedAfter, same⟩ :=
      sideBySide_other works shows ordered absent round.places
    refine ⟨after, showsAfter, orderedAfter, ?_⟩
    rw [outcome?_of_unused store round.now round.answer round.places contents absent,
      recordOf_eq_getD after, same]
    exact .unpolled

def Trace.asked (store : StatusStore σ) (trace : Trace σ) : List Source :=
  SourceSync.asked store trace.round.now trace.round.answer trace.round.settings
    trace.round.places trace.begins

/-- How many polls of a source failed in a row at the end of passes. -/
def failuresInRow (id : Int) (passes : List (Trace σ)) : Nat :=
  passes.foldl (fun count trace => failuresAfter count (outcome? id trace.polls)) 0

/-- A pass that does not ask a source, and tells that it was skipped if it is switched on. -/
structure Trace.LeavesAlone (store : StatusStore σ) (id : Int) (trace : Trace σ) : Prop where
  unasked : ∀ source ∈ trace.asked store, source.id ≠ id
  skipped : ∀ source ∈ trace.round.settings.enabledSources, source.id = id →
    ∀ results, results? trace.polls = some results → told? id results = some .skipped

/-- Passes of a run, and the record of a source before and after them. -/
inductive Turns (store : StatusStore σ) (id : Int) :
    SourceStatus → List (Trace σ) → SourceStatus → Prop where
  | nil (status : SourceStatus) : Turns store id status [] status
  | cons {trace : Trace σ} {passes : List (Trace σ)} {before between after : SourceStatus}
      (turn : Turn id trace.round before (outcome? id trace.polls) between)
      (unasked : before.isDisabledAt trace.round.now = true →
        ∀ source ∈ trace.asked store, source.id ≠ id)
      (later : Turns store id between passes after) :
    Turns store id before (trace :: passes) after

theorem turns_traces (works : store.Works readBack) (shows : store.Shows contents records)
    (ordered : Ordered records) {rounds : List Round}
    (distinct : ∀ round ∈ rounds, (round.settings.enabledSources.map (·.id)).Nodup)
    (kept : ∀ trace ∈ traces store rounds contents,
      ∀ source ∈ trace.round.settings.enabledSources, source.id = id →
      ∀ stored, store.lookUp trace.begins id = .ok stored →
      ∀ record ∈ Poll.written trace.round.now source (trace.round.answer source) stored,
        readBack record = record) :
    ∃ after, Turns store id (recordOf records id) (traces store rounds contents) after := by
  induction rounds generalizing contents records with
  | nil => exact ⟨_, .nil _⟩
  | cons round rounds ih =>
    obtain ⟨between, showsThen, orderedThen, turn⟩ :=
      turn_of_pass round id works shows ordered (distinct round List.mem_cons_self)
        fun source enabled own => kept _ List.mem_cons_self source enabled own _ (shows.lookUp id)
    obtain ⟨after, later⟩ := ih showsThen orderedThen
      (fun other member => distinct other (List.mem_cons_of_mem _ member))
      fun trace member => kept trace (List.mem_cons_of_mem _ member)
    refine ⟨after, .cons turn ?_ later⟩
    intro disabled
    exact asked_ne_of_disabled round.now round.answer round.settings works shows ordered disabled
      round.places

namespace Turns

variable {trace : Trace σ} {front back passes : List (Trace σ)}

theorem split (turns : Turns store id before (front ++ back) after) :
    ∃ between, Turns store id before front between ∧ Turns store id between back after := by
  induction front generalizing before with
  | nil => exact ⟨before, .nil before, turns⟩
  | cons trace front ih =>
    cases turns with
    | cons turn unasked later =>
      obtain ⟨between, earlier, rest⟩ := ih later
      exact ⟨between, .cons turn unasked earlier, rest⟩

theorem countsFailures (turns : Turns store id before passes after)
    (counts : CountsFailures count before) :
    CountsFailures
      (passes.foldl (fun count trace => failuresAfter count (outcome? id trace.polls)) count)
      after := by
  induction turns generalizing count with
  | nil status => exact counts
  | cons turn unasked later ih => exact ih (turn.countsFailures counts)

theorem eq_of_disabled (turns : Turns store id before passes after)
    (disabled : ∀ trace ∈ passes, before.isDisabledAt trace.round.now = true) :
    after = before := by
  induction turns with
  | nil status => rfl
  | cons turn unasked later ih =>
    obtain ⟨rfl, _⟩ := turn.waits (disabled _ List.mem_cons_self)
    exact ih fun trace member => disabled trace (List.mem_cons_of_mem _ member)

/-- Passes after a failure: the last of them does not poll the source, or skips it, if it comes
early enough. -/
theorem waits (turns : Turns store id before (passes ++ trace :: back) after)
    {failure : Timestamp} (alone : before.LeftAloneSince failure) {amount : Nat}
    (covered : amount ≤ backoffNanos before.level)
    (forward : ∀ earlier ∈ passes, earlier.round.now ≤ trace.round.now)
    (early : trace.round.now < failure.add amount) :
    (∀ source ∈ trace.asked store, source.id ≠ id) ∧
      (outcome? id trace.polls = none ∨ outcome? id trace.polls = some .skipped) := by
  have within : trace.round.now < failure.add (backoffNanos before.level) :=
    early.trans_le (failure.add_le_add (Int.natCast_nonneg _) (Int.ofNat_le.mpr covered))
  have disabled : ∀ now ≤ trace.round.now, before.isDisabledAt now = true := by
    intro now notLater
    exact SourceStatus.isDisabledAt_iff.mpr ⟨_, alone.disabledUntil_eq, notLater.trans_lt within⟩
  obtain ⟨between, waiting, rest⟩ := turns.split
  cases waiting.eq_of_disabled fun earlier member => disabled _ (forward earlier member)
  cases rest with
  | cons turn unasked later =>
    exact ⟨unasked (disabled _ le_rfl), (turn.waits (disabled _ le_rfl)).2⟩

end Turns

theorem leavesAlone_of_mem {rounds : List Round} {trace : Trace σ}
    (member : trace ∈ traces store rounds contents)
    (waits : (∀ source ∈ trace.asked store, source.id ≠ id) ∧
      (outcome? id trace.polls = none ∨ outcome? id trace.polls = some .skipped)) :
    trace.LeavesAlone store id := by
  refine ⟨waits.1, ?_⟩
  rintro source enabled rfl results reported
  have told := told?_of_results reported source.id
  rw [told]
  refine waits.2.resolve_left fun untold => ?_
  have passes := congrArg Prod.fst (mem_traces member).2
  dsimp only at passes
  rw [← passes] at reported
  obtain ⟨outcome, shown⟩ := exists_told reported enabled
  rw [told, untold] at shown
  cases shown

/-- Failing sources are not asked over and over. After a failure, no later pass asks the source
before the time is up that the number of its failures in a row gives, or before the time is up that
the source asked for, a day at most; such a pass skips the source. -/
theorem traces_leave_alone (id : Int) (works : store.Works readBack)
    (shows : store.Shows contents []) {rounds : List Round}
    (distinct : ∀ round ∈ rounds, (round.settings.enabledSources.map (·.id)).Nodup)
    (clock : rounds.Pairwise fun earlier later => earlier.now ≤ later.now)
    (kept : ∀ trace ∈ traces store rounds contents,
      ∀ source ∈ trace.round.settings.enabledSources, source.id = id →
      ∀ stored, store.lookUp trace.begins id = .ok stored →
      ∀ record ∈ Poll.written trace.round.now source (trace.round.answer source) stored,
        readBack record = record)
    {front between back : List (Trace σ)} {failed later : Trace σ}
    (run : traces store rounds contents = front ++ failed :: (between ++ later :: back))
    {message : String} (fails : outcome? id failed.polls = some (.failed message)) :
    (later.round.now < failed.round.now.add
        (backoffNanos (min (failuresInRow id (front ++ [failed])) highestLevel)) →
      later.LeavesAlone store id) ∧
    ∀ source ∈ failed.round.settings.enabledSources, source.id = id →
      ∀ failure minimum, failed.round.answer source = .error failure →
        failure.retryAfter = some minimum →
        later.round.now <
          failed.round.now.add (min minimum (24 * 3600 * nanosPerSecond) : Nat) →
        later.LeavesAlone store id := by
  obtain ⟨last, turns⟩ := turns_traces works shows List.Pairwise.nil distinct kept
  rw [← map_round_traces store rounds contents] at distinct clock
  rw [List.pairwise_map] at clock
  rw [List.forall_mem_map] at distinct
  rw [run] at turns distinct clock
  -- The record right after the failure is left alone from then on.
  obtain ⟨before, earlier, fromFailure⟩ := turns.split
  have counts : CountsFailures (failuresInRow id front) before :=
    earlier.countsFailures ⟨Nat.zero_le _, Nat.min_le_left _ _⟩
  have forward : ∀ trace ∈ between, trace.round.now ≤ later.round.now := by
    intro trace member
    have afterFailure := (List.pairwise_cons.mp (List.pairwise_append.mp clock).2.1).2
    exact (List.pairwise_append.mp afterFailure).2.2 trace member later List.mem_cons_self
  have isPass : later ∈ traces store rounds contents := by
    simp [run]
  cases fromFailure with
  | cons turn _ waiting =>
    rw [fails] at turn
    cases turn with
    | @failed asked failure due enabled own read =>
      have alone := before.leftAlone_escalate failed.round.now (failure.retryAfter.getD 0)
      rw [← StatusNote.apply_failure counts.level_le] at alone
      constructor
      · intro early
        refine leavesAlone_of_mem isPass (waiting.waits alone ?_ forward early)
        have counted := counts.fail failed.round.now failure.retryAfter
        rw [failuresInRow, List.foldl_append, List.foldl_cons, List.foldl_nil, fails]
        exact backoffNanos_le counted.le_level
      · intro source member same given minimum answered asksFor early
        refine leavesAlone_of_mem isPass (waiting.waits alone ?_ forward early)
        have one : source = asked :=
          List.inj_on_of_nodup_map (distinct failed (List.mem_append_right _ List.mem_cons_self))
            member enabled (same.trans own.symm)
        rw [← one, answered] at read
        cases read
        rw [StatusNote.apply_failure counts.level_le, asksFor]
        exact (SourceStatus.min_le_guaranteedNanos (some minimum) before failed.round.now).trans
          (before.guaranteedNanos_le failed.round.now (some minimum))

/-- A source fails, is skipped, and fails again after five minutes, when it asks for two hours. It
is left alone a quarter of an hour later because it failed twice, and almost two hours later because
it asked for that. Another source, which has nothing to offer, is asked each time. -/
theorem traces_leave_busy_source_alone :
    let source : Source := { id := 5, name := "Shows".toList, url := [] }
    let empty : Source := { id := 7, name := "Empty".toList, url := [] }
    let round (minute : Int) (failure : FetchFailure) : Round :=
      { now := .ofSeconds (1514900000 + 60 * minute)
        settings := { sources := [source, empty] }
        answer := fun asked => if asked.id = 5 then .error failure else .ok (showsOn [])
        places := [1, 0, 1, 0] }
    let down : FetchFailure := { message := "down" }
    let busy : FetchFailure :=
      { message := "busy", retryAfter := some (2 * 3600 * nanosPerSecond) }
    let rounds := [round 0 down, round 3 down, round 5 busy, round 19 down, round 124 down]
    let passes := traces .memory rounds []
    passes.map (fun trace => ((trace.asked .memory).map (·.id), outcome? 5 trace.polls)) =
        [([7, 5], some (.failed "down")), ([7], some .skipped), ([7, 5], some (.failed "busy")),
          ([7], some .skipped), ([7], some .skipped)] ∧
      failuresInRow 5 (passes.take 3) = 2 ∧
      ∀ trace ∈ passes.drop 3, trace.LeavesAlone .memory 5 := by
  intro source empty round down busy rounds passes
  have known : passes.map
      (fun trace => ((trace.asked .memory).map (·.id), outcome? 5 trace.polls)) =
        [([7, 5], some (.failed "down")), ([7], some .skipped), ([7, 5], some (.failed "busy")),
          ([7], some .skipped), ([7], some .skipped)] := by
    decide +kernel
  have inRow : failuresInRow 5 (passes.take 3) = 2 := by
    decide +kernel
  refine ⟨known, inRow, ?_⟩
  have distinct : ∀ round ∈ rounds, (round.settings.enabledSources.map (·.id)).Nodup := by
    decide +kernel
  have clock : rounds.Pairwise fun earlier later => earlier.now ≤ later.now := by
    decide +kernel
  obtain ⟨first, second, failed, soon, late, run⟩ :
      ∃ first second failed soon late, passes = [first, second, failed, soon, late] :=
    ⟨_, _, _, _, _, rfl⟩
  have begun := map_round_traces .memory rounds []
  change passes.map Trace.round = _ at begun
  rw [run] at known inRow begun ⊢
  simp only [rounds, List.map_cons, List.cons.injEq, Prod.mk.injEq] at known begun
  obtain ⟨_, _, ⟨_, fails⟩, _⟩ := known
  obtain ⟨_, _, atFailure, atSoon, atLate, _⟩ := begun
  -- Two failures in a row keep the source from being asked for a quarter of an hour.
  have soonAlone : soon.LeavesAlone .memory 5 := by
    have beforeSoon : passes = [first, second] ++ failed :: ([] ++ soon :: [late]) := run
    refine (traces_leave_alone 5 StatusStore.works_memory (StatusStore.shows_memory [])
      distinct clock (fun _ _ _ _ _ _ _ _ _ => rfl) beforeSoon fails).1 ?_
    have early : (round 19 down).now < (round 5 busy).now.add (backoffNanos 2) := by
      decide +kernel
    rw [atSoon, atFailure]
    exact inRow ▸ early
  have lateAlone : late.LeavesAlone .memory 5 := by
    have beforeLate : passes = [first, second] ++ failed :: ([soon] ++ late :: []) := run
    refine (traces_leave_alone 5 StatusStore.works_memory (StatusStore.shows_memory [])
      distinct clock (fun _ _ _ _ _ _ _ _ _ => rfl) beforeLate fails).2
      source ?_ rfl busy (2 * 3600 * nanosPerSecond) ?_ rfl ?_
    · rw [atFailure]
      exact List.mem_cons_self
    · rw [atFailure]
      rfl
    · rw [atLate, atFailure]
      decide +kernel
  exact List.forall_mem_cons.mpr ⟨soonAlone, List.forall_mem_singleton.mpr lateAlone⟩

end Curator.SourceSync
