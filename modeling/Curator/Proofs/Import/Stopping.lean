import Curator.Disk.Tree
import Curator.Proofs.Disk.Companions
import Curator.Proofs.Import.Scan

/-! Scans that are stopped on their way. A scan takes a file set and decides about it before it
takes the next one, and it looks at the signal to stop only when it is about to take one. So
whenever the signal is raised, the file set at hand is still decided about and no other one is; what
was decided before stands. -/
namespace Curator

/-- Listing a folder looks so many times at the signal to stop, and is cancelled when one of the
looks finds it raised. -/
def Disk.ListsInLooks (disk : Disk) (root : Path) (recursive : Bool) (looks : Nat) : Prop :=
  ∀ raised, disk.list root recursive raised =
    if (List.range looks).any raised then .error .cancelled
    else disk.list root recursive fun _ => false

theorem Disk.ofList_listsInLooks (files : List ListedFile) (fault : Option Fault) (root : Path)
    (recursive : Bool) : (Disk.ofList files fault).ListsInLooks root recursive 1 := by
  intro raised
  cases up : raised 0 <;> simp [ofList, up]

theorem Tree.exists_listsInLooks (tree : Tree) (root : Path) (recursive : Bool) :
    ∃ looks, tree.disk.ListsInLooks root recursive looks := by
  change ∃ looks, ∀ raised, tree.listFiles root recursive raised =
    if (List.range looks).any raised then .error .cancelled
    else tree.listFiles root recursive fun _ => false
  unfold listFiles
  cases tree.locate root with
  | error error => exact ⟨0, fun _ => rfl⟩
  | ok folder =>
    by_cases isFolder : tree.isFolder folder = true
    · refine ⟨(tree.visits recursive tree.depthLimit [folder] folder root).length, ?_⟩
      intro raised
      simp [isFolder]
    · refine ⟨0, ?_⟩
      intro raised
      simp [isFolder]

namespace FileSets

/-- Taking ends with the media files or at a look that finds the signal raised. -/
theorem takeUntil_ends (raised : Nat → Bool) (sets : FileSets) :
    (sets.takeUntil raised).2.media = [] ∨
      raised (sets.takeUntil raised).1.length = true := by
  obtain ⟨media, unclaimed⟩ := sets
  unfold takeUntil
  induction media generalizing raised unclaimed with
  | nil => exact .inl rfl
  | cons primary media ih =>
    cases up : raised 0 with
    | true => simp [consume, up]
    | false => simpa [consume, up] using ih (fun look => raised (look + 1)) _

/-- Once taking has ended, a signal that stays raised lets nothing more be taken. -/
theorem next?_takeUntil {raised : Nat → Bool}
    (stays : ∀ look later, look ≤ later → raised look = true → raised later = true)
    (sets : FileSets) {look : Nat} (late : (sets.takeUntil raised).1.length ≤ look) :
    (sets.takeUntil raised).2.next? (raised look) = none := by
  rcases sets.takeUntil_ends raised with empty | up
  · unfold next?
    rw [empty]
    cases raised look <;> rfl
  · rw [stays _ look late up]
    rfl

/-- File sets that come one after the other are followed by the next one. -/
theorem Emits.append_next {sets left rest : FileSets} {emitted : List FileSet} {set : FileSet}
    (emits : Emits sets emitted left) (next : left.next? false = some (set, rest)) :
    Emits sets (emitted ++ [set]) rest := by
  induction emits with
  | none sets => exact .next next (.none rest)
  | next first _ ih => exact .next first (ih next)

theorem Emits.unclaimed_eq {sets left : FileSets} {emitted : List FileSet}
    (emits : Emits sets emitted left) :
    left.unclaimed =
      sets.unclaimed.filter fun path => decide (∀ set ∈ emitted, path ∉ set.companions) := by
  rw [emits.unclaimed]
  apply List.filter_congr
  intro path member
  rw [Bool.eq_iff_iff, decide_eq_true_eq]
  constructor
  · intro unclaimed set emittedSet companion
    have claims := emits.claims_of_mem_companions emittedSet companion
    have claimed : isClaimed (emitted.map FileSet.primary) path = true :=
      List.any_eq_true.mpr ⟨_, List.mem_map_of_mem emittedSet, claims⟩
    rw [claimed] at unclaimed
    cases unclaimed
  · intro nowhere
    rw [Bool.not_eq_true', Bool.eq_false_iff]
    intro claimed
    have claims : ∃ set ∈ emitted, FileSet.claims set.primary path = true := by
      simpa [isClaimed] using claimed
    obtain ⟨place, ⟨set, found, companion⟩, _⟩ := (emits.existsUnique_companion member claims).2
    exact nowhere set (List.mem_of_getElem? found) companion

end FileSets

/-- A scan on its way, once the files are listed. -/
structure ScanProgress where
  sets : FileSets
  taken : List FileSet := []
  /-- The file set taken last, until it is dealt with. -/
  atHand : Option FileSet := none
  decisions : List ImportDecision := []
  isOver : Bool := false

namespace ScanProgress

variable (known : List Path) (decision : FileSet → Option ImportDecision)

def decisionsAbout (fileSets : List FileSet) : List ImportDecision :=
  (FileSet.withoutKnown known fileSets).filterMap decision

/-- One step of a scan: deal with the file set at hand, or look at the signal and take the next
one. -/
def step (raised : Bool) (progress : ScanProgress) : ScanProgress :=
  if progress.isOver then progress
  else
    match progress.atHand with
    | some fileSet =>
      { progress with
        atHand := none
        decisions := progress.decisions ++ decisionsAbout known decision [fileSet] }
    | none =>
      match progress.sets.next? raised with
      | some (fileSet, sets) =>
        { progress with sets, taken := progress.taken ++ [fileSet], atHand := some fileSet }
      | none => { progress with isOver := true }

/-- So many steps of a scan, of which each one that looks at the signal finds it as told. -/
def run : (raised : Nat → Bool) → (steps : Nat) → ScanProgress → ScanProgress
  | _, 0, progress => progress
  | raised, steps + 1, progress =>
    run (fun step => raised (step + 1)) steps (progress.step known decision (raised 0))

/-- The end of a scan whose signal is raised now: the file set at hand is dealt with. -/
def settle (progress : ScanProgress) : ScanProgress :=
  { progress with
    atHand := none
    decisions := progress.decisions ++ decisionsAbout known decision progress.atHand.toList
    isOver := true }

/-- What holds of a scan on its way from some file sets. -/
structure From (start : FileSets) (progress : ScanProgress) : Prop where
  emits : FileSets.Emits start progress.taken progress.sets
  decided : decisionsAbout known decision progress.taken =
    progress.decisions ++ decisionsAbout known decision progress.atHand.toList
  isLast : ∀ fileSet ∈ progress.atHand, progress.taken.getLast? = some fileSet
  isDone : progress.isOver = true → progress.atHand = none

variable {known decision}

theorem decisionsAbout_append (first second : List FileSet) :
    decisionsAbout known decision (first ++ second) =
      decisionsAbout known decision first ++ decisionsAbout known decision second := by
  simp [decisionsAbout, FileSet.withoutKnown]

theorem decisionsAbout_leads {first second : List FileSet} (leads : first <+: second) :
    decisionsAbout known decision first <+: decisionsAbout known decision second :=
  (leads.filter _).filterMap decision

theorem From.step {start : FileSets} {progress : ScanProgress} (raised : Bool)
    (holds : progress.From known decision start) :
    (progress.step known decision raised).From known decision start := by
  unfold ScanProgress.step
  split
  · exact holds
  · rename_i goesOn
    cases atHand : progress.atHand with
    | some fileSet =>
      refine { emits := holds.emits, decided := ?_, isLast := ?_, isDone := fun _ => rfl }
      · rw [holds.decided, atHand]
        simp [decisionsAbout, FileSet.withoutKnown]
      · intro fileSet inHand
        cases inHand
    | none =>
      cases next : progress.sets.next? raised with
      | none =>
        refine { emits := holds.emits, decided := ?_, isLast := ?_, isDone := fun _ => rfl }
        · rw [holds.decided, atHand]
        · intro fileSet inHand
          cases inHand
      | some pair =>
        obtain ⟨fileSet, sets⟩ := pair
        have goes : progress.sets.next? false = some (fileSet, sets) := by
          cases raised with
          | false => exact next
          | true => cases next
        refine { emits := holds.emits.append_next goes, decided := ?_, isLast := ?_,
                 isDone := fun ended => absurd ended goesOn }
        · rw [decisionsAbout_append, holds.decided, atHand]
          simp [decisionsAbout, FileSet.withoutKnown]
        · rintro _ ⟨⟩
          simp

/-- The invariant holds after any number of steps, whatever they find. -/
theorem From.run {start : FileSets} {progress : ScanProgress} (raised : Nat → Bool) (steps : Nat)
    (holds : progress.From known decision start) :
    (progress.run known decision raised steps).From known decision start := by
  induction steps generalizing raised progress with
  | zero => exact holds
  | succ steps ih => exact ih _ (holds.step (raised 0))

theorem from_start (sets : FileSets) : From known decision sets { sets } where
  emits := .none sets
  decided := rfl
  isLast := by
    intro fileSet inHand
    cases inHand
  isDone _ := rfl

theorem taken_leads_step (raised : Bool) (progress : ScanProgress) :
    progress.taken <+: (progress.step known decision raised).taken := by
  unfold step
  split
  · exact List.prefix_rfl
  · split
    · exact List.prefix_rfl
    · split
      · exact List.prefix_append _ _
      · exact List.prefix_rfl

theorem taken_leads_run (raised : Nat → Bool) (steps : Nat) (progress : ScanProgress) :
    progress.taken <+: (progress.run known decision raised steps).taken := by
  induction steps generalizing raised progress with
  | zero => exact List.prefix_rfl
  | succ steps ih => exact (taken_leads_step (raised 0) progress).trans (ih _ _)

theorem run_of_isOver {progress : ScanProgress} (isOver : progress.isOver = true)
    (raised : Nat → Bool) (steps : Nat) : progress.run known decision raised steps = progress := by
  induction steps generalizing raised with
  | zero => rfl
  | succ steps ih =>
    have stays : progress.step known decision (raised 0) = progress := if_pos isOver
    rw [run, stays, ih]

theorem run_add (raised : Nat → Bool) (first second : Nat) (progress : ScanProgress) :
    progress.run known decision raised (first + second) =
      (progress.run known decision raised first).run known decision
        (fun step => raised (step + first)) second := by
  induction first generalizing raised progress with
  | zero => rw [Nat.zero_add]; rfl
  | succ first ih =>
    rw [Nat.succ_add, run, run, ih]
    simp only [Nat.add_assoc]

theorem run_raised {progress : ScanProgress}
    (isDone : progress.isOver = true → progress.atHand = none) (steps : Nat) :
    progress.run known decision (fun _ => true) (steps + 2) = progress.settle known decision := by
  obtain ⟨sets, taken, atHand, decisions, isOver⟩ := progress
  rw [run, run]
  cases isOver with
  | true =>
    obtain rfl : atHand = none := isDone rfl
    rw [run_of_isOver]
    · simp [step, settle, decisionsAbout, FileSet.withoutKnown]
    · rfl
  | false =>
    cases atHand with
    | none =>
      rw [run_of_isOver]
      · simp [step, settle, FileSets.next?, decisionsAbout, FileSet.withoutKnown]
      · rfl
    | some fileSet =>
      rw [run_of_isOver]
      · simp [step, settle, FileSets.next?]
      · rfl

/-- A scan goes on as if there were no signal until it is raised. -/
theorem run_raisedAt (point steps : Nat) (progress : ScanProgress) :
    progress.run known decision (fun step => decide (point ≤ step)) (point + steps) =
      (progress.run known decision (fun _ => false) point).run known decision (fun _ => true)
        steps := by
  induction point generalizing progress with
  | zero => simp [run]
  | succ point ih =>
    rw [Nat.succ_add, run, run, ← ih]
    simp

variable (known decision)

/-- Step by step a scan takes the file sets that come before the signal, looking at it in every
other step. -/
theorem run_takeUntil (raised : Nat → Bool) (sets : FileSets) (more : Nat) :
    let progress := run known decision raised (2 * sets.media.length + 1 + more) { sets }
    sets.takeUntil (fun look => raised (2 * look)) = (progress.taken, progress.sets) ∧
      progress.isOver = true := by
  suffices walk : ∀ (media unclaimed : List Path) (raised : Nat → Bool) (taken : List FileSet)
      (decisions : List ImportDecision),
      let progress := run known decision raised (2 * media.length + 1)
        { sets := { media, unclaimed }, taken, decisions }
      let rest := FileSets.consume (fun look => raised (2 * look)) media unclaimed
      progress.taken = taken ++ rest.1 ∧ progress.sets = rest.2 ∧ progress.isOver = true by
    obtain ⟨media, unclaimed⟩ := sets
    obtain ⟨taken, left, isOver⟩ := walk media unclaimed raised [] []
    rw [run_add, run_of_isOver isOver]
    exact ⟨Prod.ext (by rw [taken]; rfl) left.symm, isOver⟩
  intro media
  induction media with
  | nil =>
    intro unclaimed raised taken decisions
    cases up : raised 0 <;> simp [run, step, FileSets.next?, FileSets.consume, up]
  | cons primary media ih =>
    intro unclaimed raised taken decisions
    cases up : raised 0 with
    | true =>
      have steps : 2 * (primary :: media).length + 1 = (2 * media.length + 2) + 1 := by
        simp [Nat.mul_add]
      rw [steps, run, up, run_of_isOver]
      · simp [step, FileSets.next?, FileSets.consume, up]
      · rfl
    | false =>
      -- Two steps take and deal with one file set; the looks are every other step of the rest too.
      have steps : 2 * (primary :: media).length + 1 = (2 * media.length + 1) + 1 + 1 := by
        simp [Nat.mul_add]
      obtain ⟨others, left, isOver⟩ := ih
        (unclaimed.filter fun path => !FileSet.claims primary path)
        (fun step => raised (step + 1 + 1))
        (taken ++ [{ primary, companions := unclaimed.filter (FileSet.claims primary) }])
        (decisions ++ decisionsAbout known decision
          [{ primary, companions := unclaimed.filter (FileSet.claims primary) }])
      rw [steps, run, run, up]
      refine ⟨?_, ?_, isOver⟩
      · simpa [FileSets.consume, up, step, FileSets.next?, Nat.mul_add] using others
      · simpa [FileSets.consume, up, step, FileSets.next?, Nat.mul_add] using left

/-- The file sets taken up to a signal are those that have been taken when it is raised. -/
theorem takeUntil_raisedAt (point : Nat) (sets : FileSets) :
    let progress := run known decision (fun _ => false) point { sets }
    sets.takeUntil (fun look => decide (point ≤ 2 * look)) = (progress.taken, progress.sets) := by
  intro progress
  have holds : progress.From known decision sets := (from_start sets).run _ point
  have taken := (run_takeUntil known decision (fun step => decide (point ≤ step)) sets
    (point + 1)).1
  have steps : 2 * sets.media.length + 1 + (point + 1) = point + (2 * sets.media.length + 2) := by
    omega
  rw [steps, run_raisedAt, run_raised holds.isDone] at taken
  exact taken

/-- What has been taken at some point comes first among all that is taken. -/
theorem taken_leads_all (point : Nat) (sets : FileSets) :
    (run known decision (fun _ => false) point { sets }).taken <+: sets.run.1 := by
  have all := (run_takeUntil known decision (fun _ => false) sets point).1
  have leads : (run known decision (fun _ => false) point { sets }).taken <+:
      (run known decision (fun _ => false) (2 * sets.media.length + 1 + point) { sets }).taken := by
    rw [Nat.add_comm, run_add]
    exact taken_leads_run _ _ _
  have same : sets.run.1 = (sets.takeUntil fun _ => false).1 := rfl
  rw [same, all]
  exact leads

end ScanProgress

/-- The signal that is raised for good before a step of a scan. Every look while the files are
listed is a step, and then there are two for each file set. -/
def StopSignal.raisedAt (looks point : Nat) : StopSignal where
  whileListing look := decide (point ≤ look)
  whileDeciding look := decide (point ≤ looks + 2 * look)

theorem Disk.ListsInLooks.list_raisedAt {disk : Disk} {root : Path} {recursive : Bool} {looks : Nat}
    (listing : disk.ListsInLooks root recursive looks) (point : Nat) :
    disk.list root recursive (StopSignal.raisedAt looks point).whileListing =
      if point < looks then .error .cancelled else disk.list root recursive fun _ => false := by
  rw [listing]
  congr 1
  rw [List.any_eq_true, eq_iff_iff]
  constructor
  · rintro ⟨look, member, up⟩
    exact Nat.lt_of_le_of_lt (of_decide_eq_true up) (List.mem_range.mp member)
  · intro early
    exact ⟨point, List.mem_range.mpr early, decide_eq_true (Nat.le_refl point)⟩

theorem StopSignal.whileDeciding_raisedAt {looks point : Nat} (late : looks ≤ point) :
    (raisedAt looks point).whileDeciding = fun look => decide (point - looks ≤ 2 * look) := by
  funext look
  rw [raisedAt, decide_eq_decide]
  omega

theorem StopSignal.stays_raised {looks point look later : Nat} (atMost : look ≤ later)
    (up : (raisedAt looks point).whileDeciding look = true) :
    (raisedAt looks point).whileDeciding later = true := by
  simp only [raisedAt, decide_eq_true_eq] at up ⊢
  omega

namespace Session

variable {disk : Disk} {settings : Settings} {root : Path} {looks : Nat}

/-- A scan that fails fails alike with every signal that lets the files be listed alike. -/
theorem scanFolder_error_congr {now : Timestamp} {known : List Path} {resolver : Resolver}
    {stop other : StopSignal} {later : Disk} {error : SessionError}
    (alike : disk.list root settings.imports.isRecursive stop.whileListing =
      disk.list root settings.imports.isRecursive other.whileListing)
    (failed : scanFolder disk now settings root known resolver other later = .error error) :
    scanFolder disk now settings root known resolver stop later = .error error := by
  cases listed : disk.list root settings.imports.isRecursive other.whileListing with
  | error fault =>
    rw [← failed, scanFolder_of_unlisted listed]
    exact scanFolder_of_unlisted (alike.trans listed)
  | ok files =>
    rw [scanFolder_of_listed listed] at failed
    cases failed

/-- A scan that is stopped has the first of the decisions that it would have made. Raised while the
files are listed, the signal cancels the scan. Raised later, it leaves a scan that fails as it is;
one that makes decisions returns those made so far and the one about the file set at hand. The file
sets taken are the first ones then, no further one comes, and the files left unclaimed are those in
none of the sets taken. -/
theorem scanFolder_stopped (now : Timestamp) (known : List Path) (resolver : Resolver)
    (later : Disk) (listing : disk.ListsInLooks root settings.imports.isRecursive looks)
    (point : Nat) :
    let stop := StopSignal.raisedAt looks point
    let scan (stop : StopSignal) := scanFolder disk now settings root known resolver stop later
    let decision :=
      ImportDecision.decision? later (.default later now settings.imports) resolver none
    (point < looks → scan stop = .error .cancelled) ∧
    (looks ≤ point → (∀ error, scan {} = .error error → scan stop = .error error) ∧
      ∀ files, disk.list root settings.imports.isRecursive (fun _ => false) = .ok files →
        let sets := FileSets.ofListing disk files
        let progress := ScanProgress.run known decision (fun _ => false) (point - looks) { sets }
        (∃ decisions all, scan stop = .ok decisions ∧ scan {} = .ok all ∧ decisions <+: all ∧
          decisions = progress.decisions ++
            ScanProgress.decisionsAbout known decision progress.atHand.toList) ∧
        (∀ fileSet ∈ progress.atHand, progress.taken.getLast? = some fileSet) ∧
        sets.takeUntil stop.whileDeciding = (progress.taken, progress.sets) ∧
        progress.taken <+: sets.run.1 ∧
        (∀ look, progress.taken.length ≤ look →
          progress.sets.next? (stop.whileDeciding look) = none) ∧
        progress.sets.unclaimed = files.filter fun path =>
          !path.isMedia && decide (∀ set ∈ progress.taken, path ∉ set.companions)) := by
  intro stop scan decision
  have stopped := listing.list_raisedAt point
  constructor
  · intro early
    rw [if_pos early] at stopped
    exact scanFolder_of_unlisted stopped
  · intro late
    rw [if_neg (Nat.not_lt.mpr late)] at stopped
    have deciding := StopSignal.whileDeciding_raisedAt late
    refine ⟨fun error failed => scanFolder_error_congr stopped failed, ?_⟩
    intro files listed sets progress
    -- What the scan returns is read off its state when the signal is raised.
    have holds : progress.From known decision sets :=
      (ScanProgress.from_start sets).run _ (point - looks)
    have taken : sets.takeUntil stop.whileDeciding = (progress.taken, progress.sets) := by
      rw [StopSignal.whileDeciding_raisedAt late]
      exact ScanProgress.takeUntil_raisedAt known decision (point - looks) sets
    have leads : progress.taken <+: sets.run.1 :=
      ScanProgress.taken_leads_all known decision (point - looks) sets
    refine ⟨⟨_, _, scanFolder_of_listed (stopped.trans listed), scanFolder_of_listed listed,
      ?_, ?_⟩, holds.isLast, taken, leads, ?_, ?_⟩
    · have own : (sets.takeUntil stop.whileDeciding).1 <+: sets.run.1 := taken ▸ leads
      exact ScanProgress.decisionsAbout_leads own
    · rw [← holds.decided, fileSetsOf, taken]
      rfl
    · intro look past
      have reached : (sets.takeUntil stop.whileDeciding).1.length ≤ look := by
        rw [taken]
        exact past
      have ended := FileSets.next?_takeUntil (fun _ _ => StopSignal.stays_raised) sets reached
      rw [taken] at ended
      exact ended
    · rw [holds.emits.unclaimed_eq]
      exact List.filter_filter.trans (by simp only [Bool.and_comm])

/-- Three episodes, the largest first, of which the second one has subtitles. -/
def episodeFiles : List ListedFile :=
  [{ path := .ofString "tv/1.mkv", size := 30 }, { path := .ofString "tv/2.mkv", size := 20 },
    { path := .ofString "tv/2.srt" }, { path := .ofString "tv/3.mkv", size := 10 }]

private theorem ofListing_episodeFiles :
    FileSets.ofListing (.ofList episodeFiles none) (episodeFiles.map ListedFile.path) =
      { media := [.ofString "tv/1.mkv", .ofString "tv/2.mkv", .ofString "tv/3.mkv"],
        unclaimed := [.ofString "tv/2.srt"] } := by
  rw [FileSets.ofListing, FileSets.bySize, List.mergeSort_of_pairwise (by decide +kernel)]
  decide +kernel

/-- The signal is raised while the second of three file sets is decided about, the first being
known: this one gets the only decision, and the third is not taken. -/
theorem scanFolder_stopped_at_second :
    let disk : Disk := .ofList episodeFiles none
    let files := episodeFiles.map ListedFile.path
    let stop := StopSignal.raisedAt 1 4
    let scan (stop : StopSignal) :=
      scanFolder disk .epoch {} (.ofString "tv") [.ofString "tv/1.mkv"] tvResolver stop disk
    disk.ListsInLooks (.ofString "tv") true 1 ∧
      disk.list (.ofString "tv") true (fun _ => false) = .ok files ∧
      ∃ decisions all left, scan stop = .ok decisions ∧ scan {} = .ok all ∧
        decisions <+: all ∧ decisions.length = 1 ∧ all.length = 2 ∧
        ((FileSets.ofListing disk files).takeUntil stop.whileDeciding).2 = left ∧
        left.next? (stop.whileDeciding 2) = none ∧ left.media = [.ofString "tv/3.mkv"] := by
  intro disk files stop scan
  have listing : disk.ListsInLooks (.ofString "tv") ({} : Settings).imports.isRecursive 1 :=
    Disk.ofList_listsInLooks _ _ _ _
  have listed : disk.list (.ofString "tv") ({} : Settings).imports.isRecursive (fun _ => false) =
      .ok files := rfl
  have fileSets : FileSets.ofListing disk files = _ := ofListing_episodeFiles
  obtain ⟨⟨decisions, all, stopped, unstopped, leads, made⟩, _, taken, _, ended, _⟩ :=
    ((scanFolder_stopped .epoch [.ofString "tv/1.mkv"] tvResolver disk listing 4).2
      (by decide : 1 ≤ 4)).2 files listed
  refine ⟨listing, listed, decisions, all, _, stopped, unstopped, leads, ?_, ?_, rfl, ?_, ?_⟩
  · rw [made, fileSets]
    decide +kernel
  · have complete := Except.ok.inj (unstopped.symm.trans (scanFolder_of_listed listed))
    rw [complete, fileSetsOf, fileSets]
    decide +kernel
  · rw [taken]
    exact ended 2 (by rw [fileSets]; decide +kernel)
  · rw [fileSets]
    decide +kernel

end Session

end Curator
