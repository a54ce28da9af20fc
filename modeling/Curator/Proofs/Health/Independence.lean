import Curator.Proofs.Health.Notes
import Curator.Proofs.Health.Works

/-! Calls of a tracker that overlap. A note reads the record of its source and puts the changed one
back with a second call of the store. Until then no other note about the source begins, while calls
about other sources come in between as they like. What a source is left with depends on the calls
about it alone, and on a checkpoint and the successes and failures around it in any order. -/
namespace Curator

def TrackerCall.isAbout (id : Int) : TrackerCall → Bool
  | .note noted _ => noted == id
  | .status asked => asked == id
  | .isBlocked asked => asked == id
  | .all => false
  | .blockedSources => false

/-- For each source the note that is between its two calls of the store, if there is one, with the
record that it is going to put, if any. -/
abbrev HeldNotes := Int → Option (Option SourceStatus)

namespace HeldNotes

variable (held : HeldNotes) {id other : Int} (written : Option SourceStatus)

def allFree : HeldNotes := fun _ => none

def hold (id : Int) : HeldNotes := Function.update held id (some written)

def free (id : Int) : HeldNotes := Function.update held id none

@[simp] theorem hold_self : held.hold written id id = some written :=
  Function.update_self id _ held

@[simp] theorem hold_other (different : other ≠ id) : held.hold written id other = held other :=
  Function.update_of_ne different _ held

@[simp] theorem free_self : held.free id id = none :=
  Function.update_self id _ held

@[simp] theorem free_other (different : other ≠ id) : held.free id other = held other :=
  Function.update_of_ne different _ held

theorem free_hold (isFree : held id = none) : (held.hold written id).free id = held := by
  rw [free, hold, Function.update_idem, Function.update_eq_self_iff, isFree]

end HeldNotes

namespace StatusStore

variable {σ : Type}

/-- Put a record, if there is one to put. -/
def put (store : StatusStore σ) : Option SourceStatus → StoreAction σ Unit
  | some status => store.upsert status
  | none => return

/-- Calls of a tracker over a store, begun in the order of the list; the notes that are held have
still to put what they write. -/
inductive Overlap (store : StatusStore σ) (contents : σ) :
    List TrackerStep → HeldNotes → σ → Prop where
  | start : Overlap store contents [] .allFree contents
  /-- A call that notes nothing is one call of the store. -/
  | ask {steps : List TrackerStep} {held : HeldNotes} {before left : σ} {step : TrackerStep}
      {answer : Except StoreFailure TrackerAnswer}
      (run : Overlap store contents steps held before)
      (asks : ∀ id note, step.call ≠ .note id note)
      (performed : (store.perform step).run.run before = (answer, left)) :
      Overlap store contents (steps ++ [step]) held left
  /-- A note begins once its source is free. -/
  | begin {steps : List TrackerStep} {held : HeldNotes} {before left : σ} {status : SourceStatus}
      (run : Overlap store contents steps held before) (now : Timestamp) (id : Int)
      (note : StatusNote) (isFree : held id = none)
      (read : (store.status id).run.run before = (.ok status, left)) :
      Overlap store contents (steps ++ [⟨now, .note id note⟩])
        (held.hold (note.change now status) id) left
  /-- A note that cannot read the record of its source is over. -/
  | refuse {steps : List TrackerStep} {held : HeldNotes} {before left : σ} {now : Timestamp}
      {id : Int} {note : StatusNote} {reason : StoreFailure}
      (run : Overlap store contents steps held before) (isFree : held id = none)
      (read : (store.status id).run.run before = (.error reason, left)) :
      Overlap store contents (steps ++ [⟨now, .note id note⟩]) held left
  /-- A note puts what it writes and lets its source go. -/
  | finish {steps : List TrackerStep} {held : HeldNotes} {before left : σ} {id : Int}
      {written : Option SourceStatus} {answer : Except StoreFailure Unit}
      (run : Overlap store contents steps held before) (isHeld : held id = some written)
      (done : (store.put written).run.run before = (answer, left)) :
      Overlap store contents steps (held.free id) left

/-- A change leaves behind what is left when the changed record is put, if there is one. -/
theorem run_update_snd (store : StatusStore σ) (id : Int)
    (change : SourceStatus → Option SourceStatus) (otherwise : Except StoreFailure Unit)
    (contents : σ) :
    ((store.update id change otherwise).run.run contents).2 =
      ((store.status id >>= fun status => store.put (change status)).run.run contents).2 := by
  rw [update, run_bind, run_bind]
  rcases (store.status id).run.run contents with ⟨reason | status, left⟩
  · rfl
  · dsimp only
    cases change status with
    | some changed => rfl
    | none => cases otherwise <;> rfl

theorem Overlap.perform {store : StatusStore σ} {contents before : σ} {steps : List TrackerStep}
    (run : store.Overlap contents steps .allFree before) (step : TrackerStep) :
    store.Overlap contents (steps ++ [step]) .allFree ((store.perform step).run.run before).2 := by
  obtain ⟨now, call⟩ := step
  cases call with
  | note id note =>
    have noted : ((store.perform ⟨now, .note id note⟩).run.run before).2 =
        ((store.update id (note.change now) note.otherwise).run.run before).2 := by
      simp only [StatusStore.perform, takeNote_eq_update, run_bind]
      rcases (store.update id (note.change now) note.otherwise).run.run before with
        ⟨reason | _, left⟩ <;> rfl
    rw [noted, run_update_snd, run_bind]
    rcases read : (store.status id).run.run before with ⟨reason | status, between⟩
    · exact run.refuse rfl read
    · have held := run.begin now id note rfl read
      have ended := held.finish (HeldNotes.hold_self _ _) rfl
      rwa [HeldNotes.free_hold _ _ rfl] at ended
  | status id => exact run.ask (by simp) rfl
  | isBlocked id => exact run.ask (by simp) rfl
  | all => exact run.ask (by simp) rfl
  | blockedSources => exact run.ask (by simp) rfl

theorem Overlap.runSteps {store : StatusStore σ} {contents before : σ} {done : List TrackerStep}
    (run : store.Overlap contents done .allFree before) (steps : List TrackerStep) :
    store.Overlap contents (done ++ steps) .allFree (store.runSteps steps before).2 := by
  induction steps generalizing done before with
  | nil => simpa [StatusStore.runSteps] using run
  | cons step steps ih =>
    have later := ih (run.perform step)
    rwa [List.append_assoc] at later

end StatusStore

/-- What a store has for a source after a step, when `readBack` is how it keeps records. -/
def TrackerStep.kept (readBack : SourceStatus → SourceStatus) (id : Int)
    (found : Option SourceStatus) (step : TrackerStep) : Option SourceStatus :=
  match step.call with
  | .note noted note =>
    if noted = id then
      ((note.change step.now (found.getD { sourceId := id })).map readBack) <|> found
    else found
  | _ => found

variable {readBack : SourceStatus → SourceStatus} {id : Int}

theorem TrackerStep.kept_own (now : Timestamp) (note : StatusNote)
    (found : Option SourceStatus) :
    TrackerStep.kept readBack id found ⟨now, .note id note⟩ =
      ((note.change now (found.getD { sourceId := id })).map readBack <|> found) :=
  if_pos rfl

theorem TrackerStep.kept_elsewhere {noted : Int} (elsewhere : noted ≠ id) (now : Timestamp)
    (note : StatusNote) (found : Option SourceStatus) :
    TrackerStep.kept readBack id found ⟨now, .note noted note⟩ = found :=
  if_neg elsewhere

theorem TrackerStep.kept_of_other {step : TrackerStep}
    (other : ∀ note, step.call ≠ .note id note) (found : Option SourceStatus) :
    step.kept readBack id found = found := by
  unfold kept
  split
  · rename_i noted note called
    rw [if_neg]
    rintro rfl
    exact other note called
  · rfl

theorem foldl_kept_of_other {steps : List TrackerStep}
    (others : ∀ step ∈ steps, ∀ note, step.call ≠ .note id note)
    (found : Option SourceStatus) :
    steps.foldl (TrackerStep.kept readBack id) found = found := by
  induction steps with
  | nil => rfl
  | cons step steps ih =>
    obtain ⟨first, rest⟩ := List.forall_mem_cons.mp others
    rw [List.foldl_cons, TrackerStep.kept_of_other first, ih rest]

theorem foldl_kept_filter (steps : List TrackerStep) (found : Option SourceStatus) :
    (steps.filter (·.call.isAbout id)).foldl (TrackerStep.kept readBack id) found =
      steps.foldl (TrackerStep.kept readBack id) found := by
  rw [List.foldl_filter]
  congr 1
  funext found step
  split
  · rfl
  · rename_i notAbout
    symm
    apply TrackerStep.kept_of_other
    intro note called
    exact notAbout (by simp [called, TrackerCall.isAbout])

namespace StatusStore

variable {σ : Type} {store : StatusStore σ} {contents left : σ} {records : List SourceStatus}
  {steps : List TrackerStep}

/-- What a run has left so far. The record that is going to be put for a source, or else the one in
the store, is what the steps leave. -/
structure Overlap.Settles (store : StatusStore σ) (readBack : SourceStatus → SourceStatus)
    (records : List SourceStatus) (steps : List TrackerStep) (held : HeldNotes) (left : σ)
    (shown : List SourceStatus) : Prop where
  shows : store.Shows left shown
  ordered : Ordered shown
  own : ∀ id, ∀ record ∈ (held id).join, record.sourceId = id
  kept : ∀ id, ((held id).join.map readBack <|> recordOf? shown id) =
    steps.foldl (TrackerStep.kept readBack id) (recordOf? records id)

theorem Works.put (works : store.Works readBack) (shows : store.Shows contents records)
    (written : Option SourceStatus) :
    ∃ left, (store.put written).run.run contents = (.ok (), left) ∧
      store.Shows left (recordsWith (written.map readBack) records) := by
  cases written with
  | none => exact ⟨contents, rfl, shows⟩
  | some record => exact works.upsert contents records record shows

namespace Overlap.Settles

variable {held : HeldNotes} {shown : List SourceStatus} {before : σ}

theorem ask (settles : Settles store readBack records steps held before shown)
    {step : TrackerStep} {answer : Except StoreFailure TrackerAnswer}
    (asks : ∀ id note, step.call ≠ .note id note)
    (performed : (store.perform step).run.run before = (answer, left)) :
    Settles store readBack records (steps ++ [step]) held left shown := by
  have writesNothing : step.written? shown = none := by
    rw [Option.eq_none_iff_forall_ne_some]
    intro record writes
    obtain ⟨note, called, _⟩ := TrackerStep.change_of_written writes
    exact asks _ _ called
  obtain ⟨after, answered, still⟩ := settles.shows.perform step fun record writes => by
    rw [writesNothing] at writes
    cases writes
  rw [TrackerStep.after, writesNothing] at still
  obtain ⟨_, rfl⟩ := Prod.mk.inj (performed.symm.trans answered)
  refine ⟨still, settles.ordered, settles.own, ?_⟩
  intro id
  rw [List.foldl_append, List.foldl_cons, List.foldl_nil, TrackerStep.kept_of_other (asks id),
    settles.kept id]

theorem begin (settles : Settles store readBack records steps held left shown) {id : Int}
    (isFree : held id = none) (now : Timestamp) (note : StatusNote) :
    Settles store readBack records (steps ++ [⟨now, .note id note⟩])
      (held.hold (note.change now (recordOf shown id)) id) left shown := by
  refine ⟨settles.shows, settles.ordered, ?_, ?_⟩
  · intro asked record member
    by_cases own : asked = id
    · subst own
      rw [HeldNotes.hold_self, Option.join_some] at member
      exact (StatusNote.change_sourceId member).trans (sourceId_recordOf shown asked)
    · rw [HeldNotes.hold_other _ _ own] at member
      exact settles.own asked record member
  · intro asked
    rw [List.foldl_append, List.foldl_cons, List.foldl_nil, ← settles.kept asked]
    by_cases own : asked = id
    · subst own
      rw [HeldNotes.hold_self, Option.join_some, isFree, TrackerStep.kept_own]
      rfl
    · rw [HeldNotes.hold_other _ _ own, TrackerStep.kept_elsewhere (Ne.symm own)]

theorem finish (works : store.Works readBack)
    (settles : Settles store readBack records steps held before shown) {id : Int}
    {written : Option SourceStatus} {answer : Except StoreFailure Unit}
    (isHeld : held id = some written)
    (done : (store.put written).run.run before = (answer, left)) :
    Settles store readBack records steps (held.free id) left
      (recordsWith (written.map readBack) shown) := by
  obtain ⟨after, put, still⟩ := works.put settles.shows written
  obtain ⟨_, rfl⟩ := Prod.mk.inj (done.symm.trans put)
  have own : ∀ record ∈ written.map readBack, record.sourceId = id := by
    intro record member
    obtain ⟨source, wrote, rfl⟩ := Option.map_eq_some_iff.mp member
    rw [works.sourceId_readBack]
    exact settles.own id source (by rw [isHeld]; exact wrote)
  refine ⟨still, settles.ordered.recordsWith _, ?_, ?_⟩
  · intro asked record member
    by_cases same : asked = id
    · subst same
      rw [HeldNotes.free_self] at member
      cases member
    · rw [HeldNotes.free_other _ same] at member
      exact settles.own asked record member
  · intro asked
    rw [← settles.kept asked]
    by_cases same : asked = id
    · subst same
      rw [HeldNotes.free_self, isHeld, recordOf?_recordsWith_own own]
      rfl
    · rw [HeldNotes.free_other _ same, recordOf?_recordsWith_other]
      intro record member
      rw [own record member]
      exact Ne.symm same

end Overlap.Settles

theorem Overlap.settles (works : store.Works readBack) (shows : store.Shows contents records)
    (ordered : Ordered records) {held : HeldNotes}
    (run : store.Overlap contents steps held left) :
    ∃ shown, Settles store readBack records steps held left shown := by
  induction run with
  | start => exact ⟨records, shows, ordered, by simp [HeldNotes.allFree], fun _ => rfl⟩
  | ask run asks performed ih =>
    obtain ⟨shown, settles⟩ := ih
    exact ⟨shown, settles.ask asks performed⟩
  | begin run now id note isFree read ih =>
    obtain ⟨shown, settles⟩ := ih
    obtain ⟨answered, rfl⟩ := Prod.mk.inj (read.symm.trans (settles.shows.status _))
    obtain rfl := Except.ok.inj answered
    exact ⟨shown, settles.begin isFree now note⟩
  | refuse run isFree read ih =>
    obtain ⟨shown, settles⟩ := ih
    cases read.symm.trans (settles.shows.status _)
  | finish run isHeld done ih =>
    obtain ⟨shown, settles⟩ := ih
    exact ⟨_, settles.finish works isHeld done⟩

/-- Once no source is held, the store has for each source what the steps leave. -/
theorem Overlap.shows (works : store.Works readBack) (shows : store.Shows contents records)
    (ordered : Ordered records) (run : store.Overlap contents steps .allFree left) :
    ∃ shown, store.Shows left shown ∧ Ordered shown ∧ ∀ id,
      recordOf? shown id = steps.foldl (TrackerStep.kept readBack id) (recordOf? records id) := by
  obtain ⟨shown, settles⟩ := run.settles works shows ordered
  exact ⟨shown, settles.shows, settles.ordered, settles.kept⟩

end StatusStore

/-- What a way of keeping records loses is not missed by a note: it writes the same record from what
is kept as from the whole. -/
def StatusNote.Overlooks (readBack : SourceStatus → SourceStatus) : Prop :=
  ∀ (note : StatusNote) (now : Timestamp) (status : SourceStatus),
    (note.change now (readBack status)).map readBack = (note.change now status).map readBack

/-- A success or a failure changes other parts of a record than a checkpoint. -/
theorem StatusNote.change_checkpoint {note : StatusNote}
    (isPoll : ∀ marker fullyCaught, note ≠ .checkpoint marker fullyCaught)
    (later now : Timestamp) (marker : ReleaseMarker) (fullyCaught : Bool)
    (status : SourceStatus) :
    note.change later (status.checkpoint now marker fullyCaught) =
      (note.change later status).map (·.checkpoint now marker fullyCaught) := by
  cases note with
  | failure minimum =>
    rw [change, change, SourceStatus.escalate?, SourceStatus.escalate?, apply_ite (Option.map _)]
    rfl
  | success =>
    by_cases idle : status.level = 0 <;>
      simp [change, SourceStatus.recover?, SourceStatus.checkpoint, idle]
  | checkpoint marker fullyCaught => exact absurd rfl (isPoll marker fullyCaught)

/-- A checkpoint may be made before or after a success or a failure of its source. -/
theorem kept_checkpoint_comm (overlooks : StatusNote.Overlooks readBack) (now later : Timestamp)
    (marker : ReleaseMarker) (fullyCaught : Bool) {note : StatusNote}
    (isPoll : ∀ marker fullyCaught, note ≠ .checkpoint marker fullyCaught)
    (found : Option SourceStatus) :
    let checkpoint : TrackerStep := ⟨now, .note id (.checkpoint marker fullyCaught)⟩
    let poll : TrackerStep := ⟨later, .note id note⟩
    poll.kept readBack id (checkpoint.kept readBack id found) =
      checkpoint.kept readBack id (poll.kept readBack id found) := by
  intro checkpoint poll
  have checkpointed (found : Option SourceStatus) : checkpoint.kept readBack id found =
      some (readBack ((found.getD { sourceId := id }).checkpoint now marker fullyCaught)) :=
    TrackerStep.kept_own now _ found
  have polled (found : Option SourceStatus) : poll.kept readBack id found =
      ((note.change later (found.getD { sourceId := id })).map readBack <|> found) :=
    TrackerStep.kept_own later note found
  have again (status : SourceStatus) :
      readBack ((readBack status).checkpoint now marker fullyCaught) =
        readBack (status.checkpoint now marker fullyCaught) :=
    Option.some.inj (overlooks (.checkpoint marker fullyCaught) now status)
  rw [checkpointed, checkpointed, polled, polled, Option.getD_some, overlooks,
    StatusNote.change_checkpoint isPoll]
  cases note.change later (found.getD { sourceId := id }) with
  | none => rfl
  | some changed => exact congrArg some (again changed).symm

namespace StatusStore

variable {σ : Type} {store : StatusStore σ} {contents : σ} {records : List SourceStatus}

/-- The records of the sources are independent of each other, and the checkpoints of a source of its
successes and failures, whatever calls overlap. Every run, those with one call after the other among
them, leaves a source with the record that the calls about it alone would leave when made in a row.
And where a checkpoint is moved past a success or a failure that no other note about the source
separates from it, both keeping their instants, the same records are shown afterwards. -/
theorem overlap_independent (works : store.Works readBack)
    (overlooks : StatusNote.Overlooks readBack) (shows : store.Shows contents records)
    (ordered : Ordered records) :
    (∀ steps, store.Overlap contents steps .allFree (store.runSteps steps contents).2) ∧
    (∀ steps left, store.Overlap contents steps .allFree left → ∀ id, ∃ found,
      store.lookUp left id = .ok found ∧
        store.lookUp (store.runSteps (steps.filter (·.call.isAbout id)) contents).2 id =
          .ok found) ∧
    ∀ (id : Int) (now later : Timestamp) (marker : ReleaseMarker) (fullyCaught : Bool)
      (note : StatusNote) (before between after : List TrackerStep),
      (∀ marker fullyCaught, note ≠ .checkpoint marker fullyCaught) →
      (∀ step ∈ between, ∀ noted, step.call ≠ .note id noted) →
      let checkpoint : TrackerStep := ⟨now, .note id (.checkpoint marker fullyCaught)⟩
      let poll : TrackerStep := ⟨later, .note id note⟩
      ∀ left moved,
        store.Overlap contents (before ++ checkpoint :: between ++ poll :: after) .allFree left →
        store.Overlap contents (before ++ between ++ poll :: checkpoint :: after) .allFree moved →
        ∃ shown,
          (∀ asked, ((store.status asked).run.run left).1 = .ok (recordOf shown asked) ∧
            ((store.status asked).run.run moved).1 = .ok (recordOf shown asked)) ∧
          (store.all.run.run left).1 = .ok shown ∧ (store.all.run.run moved).1 = .ok shown := by
  have runsInRow (steps : List TrackerStep) :
      store.Overlap contents steps .allFree (store.runSteps steps contents).2 :=
    Overlap.start.runSteps steps
  refine ⟨runsInRow, ?_, ?_⟩
  · intro steps left run id
    obtain ⟨shown, showsLeft, _, found⟩ := run.shows works shows ordered
    obtain ⟨alone, showsAlone, _, foundAlone⟩ :=
      (runsInRow (steps.filter (·.call.isAbout id))).shows works shows ordered
    have same : recordOf? alone id = recordOf? shown id := by
      rw [found id, foundAlone id, foldl_kept_filter]
    exact ⟨_, showsLeft.lookUp id, (showsAlone.lookUp id).trans (congrArg Except.ok same)⟩
  · intro id now later marker fullyCaught note before between after isPoll separate checkpoint poll
      left moved run runMoved
    obtain ⟨shown, showsLeft, leftOrdered, found⟩ := run.shows works shows ordered
    obtain ⟨others, showsMoved, movedOrdered, foundMoved⟩ := runMoved.shows works shows ordered
    -- Records by increasing id are the same once they are so for every source.
    have same : shown = others := by
      apply leftOrdered.ext movedOrdered
      intro asked
      rw [found asked, foundMoved asked]
      simp only [List.foldl_append, List.foldl_cons]
      by_cases own : asked = id
      · subst own
        rw [foldl_kept_of_other separate, foldl_kept_of_other separate,
          kept_checkpoint_comm overlooks now later marker fullyCaught isPoll]
      · simp only [checkpoint, poll, TrackerStep.kept_elsewhere (Ne.symm own)]
    subst same
    refine ⟨shown, fun asked => ⟨?_, ?_⟩, ?_, ?_⟩
    · rw [showsLeft.status asked]
    · rw [showsMoved.status asked]
    · rw [showsLeft.all]
    · rw [showsMoved.all]

/-- A source fails, is read up to a release, and answers; another one fails meanwhile. -/
def checkpointBefore : List TrackerStep :=
  [⟨.ofSeconds 1000, .note 7 (.failure none)⟩,
    ⟨.ofSeconds 1300, .note 7 (.checkpoint ⟨none, "Show".toList, .ofSeconds 1200⟩ true)⟩,
    ⟨.ofSeconds 1310, .note 8 (.failure none)⟩,
    ⟨.ofSeconds 1400, .note 7 .success⟩]

/-- The same calls with the checkpoint at the end. -/
def checkpointAfter : List TrackerStep :=
  [⟨.ofSeconds 1000, .note 7 (.failure none)⟩,
    ⟨.ofSeconds 1310, .note 8 (.failure none)⟩,
    ⟨.ofSeconds 1400, .note 7 .success⟩,
    ⟨.ofSeconds 1300, .note 7 (.checkpoint ⟨none, "Show".toList, .ofSeconds 1200⟩ true)⟩]

/-- The other source fails while the checkpoint holds the first one. -/
theorem exists_overlap_checkpointBefore :
    ∃ left, memory.Overlap [] checkpointBefore .allFree left := by
  have failed := (Overlap.start : memory.Overlap [] [] .allFree []).perform
    ⟨.ofSeconds 1000, .note 7 (.failure none)⟩
  have held := failed.begin (.ofSeconds 1300) 7
    (.checkpoint ⟨none, "Show".toList, .ofSeconds 1200⟩ true) rfl rfl
  have both := held.begin (.ofSeconds 1310) 8 (.failure none) rfl rfl
  have other := both.finish (HeldNotes.hold_self _ _) rfl
  rw [HeldNotes.free_hold _ _ rfl] at other
  have noted := other.finish (HeldNotes.hold_self _ _) rfl
  rw [HeldNotes.free_hold _ _ rfl] at noted
  have answered := noted.perform ⟨.ofSeconds 1400, .note 7 .success⟩
  exact ⟨_, answered⟩

theorem overlap_independent_checkpointBefore :
    ∃ left, memory.Overlap [] checkpointBefore .allFree left ∧
      (∃ found, memory.lookUp left 7 = .ok found ∧
        memory.lookUp
          (memory.runSteps (checkpointBefore.filter (·.call.isAbout 7)) []).2 7 = .ok found) ∧
      ∃ shown, (memory.all.run.run left).1 = .ok shown ∧
        (memory.all.run.run (memory.runSteps checkpointAfter []).2).1 = .ok shown := by
  obtain ⟨left, run⟩ := exists_overlap_checkpointBefore
  obtain ⟨inRow, alone, moved⟩ := overlap_independent works_memory (fun _ _ _ => rfl)
    (shows_memory []) List.Pairwise.nil
  obtain ⟨shown, _, before, after⟩ := moved 7 (.ofSeconds 1300) (.ofSeconds 1400)
    ⟨none, "Show".toList, .ofSeconds 1200⟩ true .success
    [⟨.ofSeconds 1000, .note 7 (.failure none)⟩]
    [⟨.ofSeconds 1310, .note 8 (.failure none)⟩] [] (fun _ _ => nofun) (by simp) left _ run
    (inRow checkpointAfter)
  exact ⟨left, run, alone checkpointBefore left run 7, shown, before, after⟩

end StatusStore

end Curator
