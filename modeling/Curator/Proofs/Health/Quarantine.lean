import Curator.Proofs.Health.Invariant
import Curator.Proofs.Health.Notes
import Curator.Proofs.Time.Addition

/-! For how long a failing source is left alone. A failure covers the time that was asked for, and
until the source succeeds nothing shortens it: later failures only put it off. -/
namespace Curator

theorem backoffSeconds_le {low high : Nat} (ordered : low ≤ high) :
    backoffSeconds low ≤ backoffSeconds high := by
  have table : ∀ high ≤ highestLevel, ∀ low ≤ high,
      backoffTable.getD low 0 ≤ backoffTable.getD high 0 := by
    decide
  exact table _ (Nat.min_le_right high highestLevel) _ (by omega)

theorem backoffNanos_le {low high : Nat} (ordered : low ≤ high) :
    backoffNanos low ≤ backoffNanos high :=
  Nat.mul_le_mul_right nanosPerSecond (backoffSeconds_le ordered)

theorem second_le_backoffNanos {level : Nat} (failed : 1 ≤ level) :
    nanosPerSecond ≤ backoffNanos level := by
  have least : nanosPerSecond ≤ backoffNanos 1 := by
    decide
  exact Nat.le_trans least (backoffNanos_le failed)

/-- The level is raised until it covers the time that is asked for, or is the highest. -/
theorem covers_raiseLevel (minimum level : Nat) (bounded : level ≤ highestLevel) :
    minimum ≤ backoffNanos (raiseLevel minimum level) ∨
      raiseLevel minimum level = highestLevel := by
  fun_induction raiseLevel minimum level with
  | case1 level below ih => exact ih below.1
  | case2 level reached => omega

namespace SourceStatus

/-- A record of a source that is left alone from its last failure on, for as long as its level
says. -/
structure LeftAloneSince (failure : Timestamp) (status : SourceStatus) : Prop where
  level_pos : 1 ≤ status.level
  level_le : status.level ≤ highestLevel
  disabledUntil_eq : status.disabledUntil = some (failure.add (backoffNanos status.level))

theorem leftAlone_escalate (status : SourceStatus) (now : Timestamp) (minimum : Nat) :
    (status.escalate now minimum).LeftAloneSince now where
  level_pos := (one_le_levelAbove status.level).trans (le_raiseLevel minimum _)
  level_le := raiseLevel_le minimum _ (levelAbove_le status.level)
  disabledUntil_eq := rfl

theorem level_le_escalate {status : SourceStatus} (bounded : status.level ≤ highestLevel)
    (now : Timestamp) (minimum : Nat) : status.level ≤ (status.escalate now minimum).level :=
  (le_levelAbove bounded).trans (le_raiseLevel minimum (levelAbove status.level))

/-- For how long a failure keeps a source from being polled at least, in nanoseconds: for as long
as was asked for, and for as long as a failure does of which nothing was asked, up to a day. -/
def guaranteedNanos (minimum : Option Nat) (status : SourceStatus) (now : Timestamp) : Nat :=
  if 24 * 3600 * nanosPerSecond ≤ minimum.getD 0 then 24 * 3600 * nanosPerSecond
  else max (minimum.getD 0) (backoffNanos (status.escalate now 0).level)

theorem guaranteedNanos_le (status : SourceStatus) (now : Timestamp) (minimum : Option Nat) :
    guaranteedNanos minimum status now ≤
      backoffNanos (status.escalate now (minimum.getD 0)).level := by
  have plain : (status.escalate now 0).level = levelAbove status.level := by
    have never : ¬(levelAbove status.level < highestLevel ∧
        backoffNanos (levelAbove status.level) < 0) := by
      omega
    simp only [escalate]
    rw [raiseLevel, if_neg never]
  have raised := backoffNanos_le (le_raiseLevel (minimum.getD 0) (levelAbove status.level))
  have day : backoffNanos highestLevel = 24 * 3600 * nanosPerSecond := rfl
  have covers := covers_raiseLevel (minimum.getD 0) (levelAbove status.level) (levelAbove_le _)
  unfold guaranteedNanos
  rw [plain]
  simp only [escalate]
  rcases covers with covered | highest
  · split
    · omega
    · exact Nat.max_le.mpr ⟨covered, raised⟩
  · rw [highest] at raised ⊢
    split
    · omega
    · exact Nat.max_le.mpr ⟨by omega, raised⟩

theorem min_le_guaranteedNanos (minimum : Option Nat) (status : SourceStatus) (now : Timestamp) :
    min (minimum.getD 0) (24 * 3600 * nanosPerSecond) ≤ status.guaranteedNanos minimum now := by
  unfold guaranteedNanos
  split
  · exact Nat.min_le_right _ _
  · exact (Nat.min_le_left _ _).trans (Nat.le_max_left _ _)

/-- As long as the clock does not go back and the level does not drop, a source is left alone for
longer. -/
theorem LeftAloneSince.add_le {earlier later : Timestamp} {status changed : SourceStatus}
    (alone : status.LeftAloneSince earlier) (forward : earlier.plainPosition ≤ later.plainPosition)
    (raised : status.level ≤ changed.level) :
    earlier.add (backoffNanos status.level) ≤ later.add (backoffNanos changed.level) := by
  have long := second_le_backoffNanos alone.level_pos
  have longer := backoffNanos_le raised
  simp only [nanosPerSecond] at long
  exact Timestamp.add_le_add_of_plainPosition_le forward (by omega) (by omega)

end SourceStatus

theorem StatusNote.apply_failure {status : SourceStatus} (bounded : status.level ≤ highestLevel)
    (now : Timestamp) (minimum : Option Nat) :
    (failure minimum).apply now status = status.escalate now (minimum.getD 0) := by
  rw [apply, change, SourceStatus.escalate?_eq_escalate bounded, Option.getD_some]

namespace TrackerStep

def failureOf? (id : Int) (step : TrackerStep) : Option Timestamp :=
  match step.call with
  | .note noted (.failure _) => if noted = id then some step.now else none
  | _ => none

/-- A step that is no success of a source never makes it be left alone for less. -/
theorem leftAlone_apply {id : Int} {status : SourceStatus} {failure : Timestamp}
    {step : TrackerStep} (alone : status.LeftAloneSince failure)
    (noSuccess : step.call ≠ .note id .success) :
    status.level ≤ (step.apply id status).level ∧
      (step.apply id status).LeftAloneSince ((step.failureOf? id).getD failure) := by
  obtain ⟨now, call⟩ := step
  cases call with
  | note noted note =>
    unfold apply failureOf?
    by_cases own : noted = id
    · subst own
      cases note with
      | failure minimum =>
        simp only [if_true, Option.getD_some, StatusNote.apply_failure alone.level_le]
        exact ⟨SourceStatus.level_le_escalate alone.level_le now _,
          status.leftAlone_escalate now _⟩
      | success => exact absurd rfl noSuccess
      | checkpoint marker fullyCaught =>
        simp only [if_true, Option.getD_none]
        exact ⟨Nat.le_refl _, alone.level_pos, alone.level_le, alone.disabledUntil_eq⟩
    · cases note <;> simp only [if_neg own, Option.getD_none] <;> exact ⟨Nat.le_refl _, alone⟩
  | status id => exact ⟨Nat.le_refl _, alone⟩
  | isBlocked id => exact ⟨Nat.le_refl _, alone⟩
  | all => exact ⟨Nat.le_refl _, alone⟩
  | blockedSources => exact ⟨Nat.le_refl _, alone⟩

end TrackerStep

def failuresOf (id : Int) (steps : List TrackerStep) : List Timestamp :=
  steps.filterMap (TrackerStep.failureOf? id)

/-- Steps without a success of a source: the level stays or is raised, and the source is left alone
from its last failure on. -/
theorem leftAlone_foldl {id : Int} {status : SourceStatus} {failure : Timestamp}
    (alone : status.LeftAloneSince failure) {steps : List TrackerStep}
    (noSuccess : ∀ step ∈ steps, step.call ≠ .note id .success) :
    status.level ≤ (steps.foldl (TrackerStep.apply id) status).level ∧
      (steps.foldl (TrackerStep.apply id) status).LeftAloneSince
        ((failuresOf id steps).getLastD failure) := by
  induction steps generalizing status failure with
  | nil => exact ⟨Nat.le_refl _, alone⟩
  | cons step steps ih =>
    obtain ⟨kept, aloneThen⟩ :=
      TrackerStep.leftAlone_apply alone (noSuccess step List.mem_cons_self)
    obtain ⟨raised, aloneAfter⟩ :=
      ih aloneThen fun later member => noSuccess later (List.mem_cons_of_mem _ member)
    refine ⟨Nat.le_trans kept raised, ?_⟩
    rw [List.foldl_cons, failuresOf, List.filterMap_cons]
    cases failed : step.failureOf? id with
    | none => rwa [failed] at aloneAfter
    | some later =>
      rw [failed] at aloneAfter
      rwa [List.getLastD_cons]

private theorem plainPosition_le_getLastD {instant : Timestamp} {later : List Timestamp}
    (forward : ∀ other ∈ later, instant.plainPosition ≤ other.plainPosition) :
    instant.plainPosition ≤ (later.getLastD instant).plainPosition := by
  have member : later.getLastD instant ∈ instant :: later := List.getLastD_mem_cons
  rcases List.mem_cons.mp member with same | member
  · rw [same]
  · exact forward _ member

/-- After a failure come steps without a success of the source, and then some more of them: the
level does not drop, the instant until which the source is left alone does not move back, and the
guaranteed time is covered. -/
theorem leftAlone_since_failure {id : Int} {now : Timestamp} {minimum : Option Nat}
    (status : SourceStatus) {first second : List TrackerStep}
    (noSuccess : ∀ step ∈ first ++ second, step.call ≠ .note id .success)
    (forward : (now :: failuresOf id (first ++ second)).Pairwise fun earlier later =>
      earlier.plainPosition ≤ later.plainPosition) :
    let earlier := first.foldl (TrackerStep.apply id) (status.escalate now (minimum.getD 0))
    let later := second.foldl (TrackerStep.apply id) earlier
    ∃ untilEarlier untilLater, earlier.level ≤ later.level ∧
      earlier.disabledUntil = some untilEarlier ∧ later.disabledUntil = some untilLater ∧
      untilEarlier ≤ untilLater ∧ now.add (status.guaranteedNanos minimum now) ≤ untilLater := by
  -- The source is left alone since the failure, then since the last one of the first steps, and
  -- then since the last one of all.
  have alone := status.leftAlone_escalate now (minimum.getD 0)
  obtain ⟨raisedFirst, aloneFirst⟩ :=
    leftAlone_foldl alone fun step member => noSuccess step (List.mem_append_left _ member)
  obtain ⟨raisedSecond, aloneSecond⟩ :=
    leftAlone_foldl aloneFirst fun step member => noSuccess step (List.mem_append_right _ member)
  rw [failuresOf, List.filterMap_append, ← List.cons_append, List.pairwise_append] at forward
  obtain ⟨forwardFirst, _, forwardSecond⟩ := forward
  have untilFirst := alone.add_le
    (plainPosition_le_getLastD (List.pairwise_cons.mp forwardFirst).1) raisedFirst
  have untilSecond := aloneFirst.add_le
    (plainPosition_le_getLastD (forwardSecond _ List.getLastD_mem_cons)) raisedSecond
  have guaranteed : now.add (status.guaranteedNanos minimum now) ≤
      now.add (backoffNanos (status.escalate now (minimum.getD 0)).level) :=
    Timestamp.add_le_add now (Int.natCast_nonneg _)
      (Int.ofNat_le.mpr (status.guaranteedNanos_le now minimum))
  exact ⟨_, _, raisedSecond, aloneFirst.disabledUntil_eq, aloneSecond.disabledUntil_eq,
    untilSecond, guaranteed.trans (untilFirst.trans untilSecond)⟩

/-- A tenth of a second into the leap second at the end of 2016. -/
def inLeapSecond : Timestamp where
  seconds := 1483228799
  nanos := 1100000000
  nanos_lt := by decide
  minute_end := by decide

namespace StatusStore

variable {σ : Type} {store : StatusStore σ} {contents : σ} {kind : SourceStatus → Prop}

def statusAfter (store : StatusStore σ) (steps : List TrackerStep) (contents : σ) (id : Int) :
    Except StoreFailure SourceStatus :=
  ((store.status id).run.run (store.runSteps steps contents).2).1

def isBlockedAfter (store : StatusStore σ) (steps : List TrackerStep) (contents : σ)
    (instant : Timestamp) (id : Int) : Except StoreFailure Bool :=
  ((store.isBlocked instant id).run.run (store.runSteps steps contents).2).1

private theorem statusAfter_eq (keeps : store.Keeps kind) (shows : store.Shows contents [])
    {steps : List TrackerStep} (written : ∀ record ∈ writtenBy steps [], kind record) (id : Int) :
    store.statusAfter steps contents id =
      .ok (steps.foldl (TrackerStep.apply id) { sourceId := id }) := by
  have showsThen := (shows.runSteps keeps steps written).2
  rw [statusAfter, showsThen.status id, recordOf_recordsAfter]
  rfl

private theorem isBlockedAfter_eq (keeps : store.Keeps kind) (shows : store.Shows contents [])
    {steps : List TrackerStep} (written : ∀ record ∈ writtenBy steps [], kind record)
    (instant : Timestamp) (id : Int) :
    store.isBlockedAfter steps contents instant id =
      .ok ((steps.foldl (TrackerStep.apply id) { sourceId := id }).isDisabledAt instant) := by
  have showsThen := (shows.runSteps keeps steps written).2
  rw [isBlockedAfter, showsThen.isBlocked instant id, recordOf_recordsAfter]
  rfl

private theorem level_foldl_le (steps : List TrackerStep) (id : Int) :
    (steps.foldl (TrackerStep.apply id) { sourceId := id }).level ≤ highestLevel := by
  have reached : recordOf (recordsAfter steps []) id =
      steps.foldl (TrackerStep.apply id) { sourceId := id } := recordOf_recordsAfter steps [] id
  rw [← reached]
  rcases recordOf_mem (recordsAfter steps []) id with known | unknown
  · exact (forall_mem_recordsAfter SourceStatus.consistent_fresh
      (fun _ _ _ _ => StatusNote.change_consistent) steps List.Pairwise.nil
      (fun _ member => nomatch member) _ known).level_le
  · rw [unknown]
    exact Nat.zero_le _

/-- From a failure on, as long as the source does not succeed, its level never drops, the instant
until which it is left alone never moves back, and it is left alone for the guaranteed time at
least. The clock is not to go back from one failure of the source to the next, where a leap second
counts as the second before it. -/
theorem leftAlone_until_success (keeps : store.Keeps kind) (shows : store.Shows contents [])
    {id : Int} {now : Timestamp} {minimum : Option Nat}
    {before first second : List TrackerStep} {failed : List TrackerStep}
    (failure : failed = before ++ [⟨now, .note id (.failure minimum)⟩])
    (written : ∀ record ∈ writtenBy (failed ++ first ++ second) [], kind record)
    (noSuccess : ∀ step ∈ first ++ second, step.call ≠ .note id .success)
    (forward : (now :: failuresOf id (first ++ second)).Pairwise fun earlier later =>
      earlier.plainPosition ≤ later.plainPosition) :
    ∃ status earlier later untilEarlier untilLater,
      store.statusAfter before contents id = .ok status ∧
      store.statusAfter (failed ++ first) contents id = .ok earlier ∧
      store.statusAfter (failed ++ first ++ second) contents id = .ok later ∧
      earlier.level ≤ later.level ∧
      earlier.disabledUntil = some untilEarlier ∧ later.disabledUntil = some untilLater ∧
      untilEarlier ≤ untilLater ∧
      ∀ instant, instant < now.add (status.guaranteedNanos minimum now) →
        store.isBlockedAfter (failed ++ first ++ second) contents instant id = .ok true := by
  have writtenFirst : ∀ record ∈ writtenBy (failed ++ first) [], kind record := by
    intro record member
    apply written
    rw [writtenBy_append]
    exact List.mem_append_left _ member
  have writtenBefore : ∀ record ∈ writtenBy before [], kind record := by
    intro record member
    apply writtenFirst
    rw [failure, writtenBy_append, writtenBy_append]
    exact List.mem_append_left _ (List.mem_append_left _ member)
  let status := before.foldl (TrackerStep.apply id) { sourceId := id }
  -- Levels that steps lead to can be counted up, so the failure escalates the record.
  have record : ∀ later, (failed ++ later).foldl (TrackerStep.apply id) { sourceId := id } =
      later.foldl (TrackerStep.apply id) (status.escalate now (minimum.getD 0)) := by
    intro later
    rw [List.foldl_append, failure, List.foldl_append]
    refine congrArg (later.foldl _) ((if_pos rfl).trans ?_)
    exact StatusNote.apply_failure (level_foldl_le before id) now minimum
  obtain ⟨untilEarlier, untilLater, raised, earlier, later, ordered, guaranteed⟩ :=
    leftAlone_since_failure status noSuccess forward
  rw [← record, ← List.foldl_append] at raised later
  rw [← record] at earlier
  refine ⟨status, _, _, untilEarlier, untilLater, statusAfter_eq keeps shows writtenBefore id,
    statusAfter_eq keeps shows writtenFirst id, statusAfter_eq keeps shows written id, raised,
    earlier, later, ordered, ?_⟩
  intro instant early
  rw [isBlockedAfter_eq keeps shows written, SourceStatus.isDisabledAt, later]
  exact congrArg Except.ok (Timestamp.before_iff_lt.mpr (early.trans_le guaranteed))

/-- The clock does not go back, and yet a failure in a leap second moves the instant back until
which a source at the highest level is left alone, so that the source is polled before the day is
over that was asked for. -/
theorem leapSecond_moves_quarantine_back :
    let now : Timestamp := .ofPosition 1483228799900000000
    let failed : List TrackerStep := [⟨now, .note 1 (.failure (some (24 * 3600 * nanosPerSecond)))⟩]
    let again : List TrackerStep := [⟨inLeapSecond, .note 1 (.failure none)⟩]
    let instant : Timestamp := .ofPosition 1483315199500000000
    now ≤ inLeapSecond ∧
      (memory.statusAfter failed [] 1).map (·.disabledUntil) =
        .ok (some (.ofPosition 1483315199900000000)) ∧
      (memory.statusAfter (failed ++ again) [] 1).map (·.disabledUntil) =
        .ok (some (.ofPosition 1483315199100000000)) ∧
      now ≤ instant ∧ instant < now.add (24 * 3600 * nanosPerSecond) ∧
      memory.isBlockedAfter (failed ++ again) [] instant 1 = .ok false := by
  decide +kernel

/-- A source fails a second time and asks for two hours and a nanosecond. A little later it is read
up to a release, and fails twice more, the last time in a leap second, while another source
succeeds. -/
theorem leftAlone_at_end_of_2016 :
    let before : List TrackerStep := [⟨.ofSeconds 1483228000, .note 7 (.failure none)⟩]
    let now : Timestamp := .ofSeconds 1483228300
    let minimum : Option Nat := some (2 * 3600 * nanosPerSecond + 1)
    let first : List TrackerStep :=
      [⟨.ofSeconds 1483228400, .note 7 (.checkpoint ⟨none, "Show".toList, .ofSeconds 0⟩ true)⟩,
        ⟨.ofSeconds 1483228500, .note 7 (.failure none)⟩]
    let second : List TrackerStep :=
      [⟨.ofSeconds 1483228600, .note 8 .success⟩, ⟨inLeapSecond, .note 7 (.failure (some 1))⟩]
    let steps := before ++ [⟨now, .note 7 (.failure minimum)⟩] ++ first ++ second
    (∀ step ∈ first ++ second, step.call ≠ .note 7 .success) ∧
      ((now :: failuresOf 7 (first ++ second)).Pairwise fun earlier later =>
        earlier.plainPosition ≤ later.plainPosition) ∧
      ∀ instant, instant < now.add (2 * 3600 * nanosPerSecond + 1) →
        memory.isBlockedAfter steps [] instant 7 = .ok true := by
  intro before now minimum first second steps
  have noSuccess : ∀ step ∈ first ++ second, step.call ≠ .note 7 .success := by
    decide
  have forward : (now :: failuresOf 7 (first ++ second)).Pairwise fun earlier later =>
      earlier.plainPosition ≤ later.plainPosition := by
    decide +kernel
  refine ⟨noSuccess, forward, ?_⟩
  obtain ⟨status, earlier, later, untilEarlier, untilLater, found, _, _, _, _, _, _, blocked⟩ :=
    leftAlone_until_success keeps_memory (shows_memory []) rfl
      (fun _ _ => trivial) noSuccess forward
  have known : memory.statusAfter before [] 7 =
      .ok (SourceStatus.escalate { sourceId := 7 } (.ofSeconds 1483228000) 0) := by
    decide +kernel
  cases Except.ok.inj (found.symm.trans known)
  have guaranteed :
      (SourceStatus.escalate { sourceId := 7 } (.ofSeconds 1483228000) 0).guaranteedNanos
        minimum now = 2 * 3600 * nanosPerSecond + 1 := by
    decide +kernel
  rw [guaranteed] at blocked
  exact blocked

end StatusStore

end Curator
