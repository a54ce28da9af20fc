import Curator.Proofs.Import.Verdict
import Curator.Session
import Mathlib.Data.List.Basic

/-! Scans of a folder. Every file set is decided about alone, and no decision about one can fail; so
whatever is found out about one file, a scan makes the same decisions about all others. -/
namespace Curator

/-- The candidates of a resolver hold the file set that it was asked about. -/
def Resolver.KeepsFileSet (resolver : Resolver) : Prop :=
  ∀ fileSet candidate, resolver fileSet = .ok (some candidate) → candidate.fileSet = fileSet

/-- Two disks that answer alike when they are asked about a file. -/
structure Disk.AnswersAlike (left right : Disk) (path : Path) : Prop where
  size : left.size path = right.size path
  lastWrite : left.lastWrite path = right.lastWrite path
  isLocked : left.isLocked path = right.isLocked path

namespace Candidate

@[simp]
theorem fileSet_withFolderQuality (candidate : Candidate) (folder : Option QualityModel) :
    (candidate.withFolderQuality folder).fileSet = candidate.fileSet := by
  unfold withFolderQuality
  split
  · split <;> rfl
  · rfl

@[simp]
theorem fileSet_markExisting (candidate : Candidate) :
    candidate.markExisting.fileSet = candidate.fileSet := by
  unfold markExisting
  split
  · split <;> rfl
  · rfl

end Candidate

/-- The rules that every import uses look at nothing but the file itself. -/
theorem rejections_default_congr {left right : Disk} (now : Timestamp) (settings : ImportSettings)
    {candidate : Candidate} (alike : left.AnswersAlike right candidate.path) :
    (SpecificationRegistry.default left now settings).specifications.filterMap
        (Specification.rejection? candidate) =
      (SpecificationRegistry.default right now settings).specifications.filterMap
        (Specification.rejection? candidate) := by
  have unpacking : (Rule.notUnpacking left now settings.workingFolders
      settings.unpackingCheck).rejection? candidate =
        (Rule.notUnpacking right now settings.workingFolders
          settings.unpackingCheck).rejection? candidate := by
    simp only [Specification.rejection?, Rule.notUnpacking, alike.lastWrite]
  have inUse : (Rule.notInUse left).rejection? candidate =
      (Rule.notInUse right).rejection? candidate := by
    simp only [Specification.rejection?, Rule.notInUse, alike.isLocked]
  simp only [SpecificationRegistry.default, List.filterMap_cons, unpacking, inUse]

namespace ImportDecision

def decision? (disk : Disk) (registry : SpecificationRegistry) (resolver : Resolver)
    (folderQuality : Option QualityModel) (fileSet : FileSet) : Option ImportDecision :=
  (decide? disk registry resolver folderQuality fileSet).toOption.join

variable {disk : Disk} {registry : SpecificationRegistry} {resolver : Resolver}
  {folderQuality : Option QualityModel} {fileSet : FileSet}

theorem decide?_eq (disk : Disk) (registry : SpecificationRegistry) (resolver : Resolver)
    (folderQuality : Option QualityModel) (fileSet : FileSet) :
    decide? disk registry resolver folderQuality fileSet =
      .ok (decision? disk registry resolver folderQuality fileSet) := by
  unfold decision? decide?
  cases resolver fileSet with
  | error fault => rfl
  | ok answer =>
    cases answer with
    | none => rfl
    | some candidate =>
      dsimp only
      cases disk.size ((candidate.withFolderQuality folderQuality).markExisting).path with
      | error error => rfl
      | ok size =>
        simp only [SpecificationRegistry.evaluate_eq]
        rfl

theorem decideAll_eq (disk : Disk) (registry : SpecificationRegistry) (resolver : Resolver)
    (folderQuality : Option QualityModel) (fileSets : List FileSet) :
    decideAll disk registry resolver folderQuality fileSets =
      .ok (fileSets.filterMap (decision? disk registry resolver folderQuality)) := by
  have decided : fileSets.mapM (decide? disk registry resolver folderQuality) =
      .ok (fileSets.map (decision? disk registry resolver folderQuality)) := by
    induction fileSets with
    | nil => rfl
    | cons fileSet fileSets ih =>
      rw [List.mapM_cons, decide?_eq, ih]
      rfl
  rw [decideAll, decided]
  simp [bind, Except.bind, pure, Except.pure, List.filterMap_map]

/-- A decision about a file set is about the files of this set. -/
theorem fileSet_of_decision? (keeps : resolver.KeepsFileSet) {decision : ImportDecision}
    (decided : decision? disk registry resolver folderQuality fileSet = some decision) :
    decision.candidate.fileSet = fileSet := by
  unfold decision? decide? at decided
  cases answered : resolver fileSet with
  | error fault =>
    rw [answered] at decided
    cases decided
  | ok answer =>
    rw [answered] at decided
    cases answer with
    | none =>
      cases decided
      rfl
    | some candidate =>
      dsimp only at decided
      split at decided
      · cases decided
      · rw [SpecificationRegistry.evaluate_eq] at decided
        cases decided
        simp [keeps fileSet candidate answered]

/-- What is decided about a file set is known from what its resolver and its disk answer about it. -/
theorem decision?_congr {left right : Disk} {other : Resolver} (now : Timestamp)
    (settings : ImportSettings) (keeps : resolver.KeepsFileSet)
    (same : resolver fileSet = other fileSet)
    (alike : left.AnswersAlike right fileSet.primary) :
    decision? left (.default left now settings) resolver folderQuality fileSet =
      decision? right (.default right now settings) other folderQuality fileSet := by
  unfold decision? decide?
  rw [← same]
  cases answered : resolver fileSet with
  | error fault => rfl
  | ok answer =>
    cases answer with
    | none => rfl
    | some candidate =>
      have own : ((candidate.withFolderQuality folderQuality).markExisting).path =
          fileSet.primary := by
        simp [Candidate.path, keeps fileSet candidate answered]
      dsimp only
      rw [own, ← alike.size]
      cases left.size fileSet.primary with
      | error error => rfl
      | ok size =>
        simp only [SpecificationRegistry.evaluate_eq]
        rw [rejections_default_congr now settings (own.symm ▸ alike)]

end ImportDecision

namespace Session

def fileSetsOf (disk : Disk) (known : List Path) (stop : StopSignal) (files : List Path) :
    List FileSet :=
  FileSet.withoutKnown known ((FileSets.ofListing disk files).takeUntil stop.whileDeciding).1

variable {disk : Disk} {now : Timestamp} {settings : Settings} {root : Path} {known : List Path}
  {stop : StopSignal} {resolver other : Resolver} {later laterOther : Disk} {files : List Path}

/-- A scan whose listing succeeds decides about every file set alone. -/
theorem scanFolder_of_listed
    (listed : disk.list root settings.imports.isRecursive stop.whileListing = .ok files) :
    scanFolder disk now settings root known resolver stop later =
      .ok ((fileSetsOf disk known stop files).filterMap
        (ImportDecision.decision? later (.default later now settings.imports) resolver none)) := by
  have scanned : FileSets.scan disk root settings.imports.isRecursive stop.whileListing =
      .ok (FileSets.ofListing disk files) := by
    rw [FileSets.scan, listed]
    rfl
  rw [scanFolder, Curator.scanFolder, scanned]
  simp only [bind, Except.bind, ImportDecision.decideAll_eq]
  rfl

theorem scanFolder_of_unlisted {fault : Fault}
    (unlisted : disk.list root settings.imports.isRecursive stop.whileListing = .error fault) :
    scanFolder disk now settings root known resolver stop later =
      .error (SessionError.ofFault fault) := by
  have scanned : FileSets.scan disk root settings.imports.isRecursive stop.whileListing =
      .error fault := by
    rw [FileSets.scan, unlisted]
    rfl
  rw [scanFolder, Curator.scanFolder, scanned]
  rfl

/-- The decisions that are not about one file are those about the other file sets. -/
private theorem filter_decisions (keeps : resolver.KeepsFileSet) (registry : SpecificationRegistry)
    (path : Path) (fileSets : List FileSet) :
    (fileSets.filterMap (ImportDecision.decision? later registry resolver none)).filter
        (fun decision => decision.candidate.path ≠ path) =
      (fileSets.filter fun fileSet => fileSet.primary ≠ path).filterMap
        (ImportDecision.decision? later registry resolver none) := by
  rw [List.filter_filterMap, List.filterMap_filter]
  congr 1
  funext fileSet
  cases decided : ImportDecision.decision? later registry resolver none fileSet with
  | none => simp
  | some decision =>
    have own : decision.candidate.path = fileSet.primary :=
      congrArg FileSet.primary (ImportDecision.fileSet_of_decision? keeps decided)
    by_cases same : fileSet.primary = path <;> simp [own, same]

/-- One file never stops a scan and never changes what is decided about the others. A scan fails only
if the files cannot be listed. Two scans that differ in what is answered about the file set of one
path, by the resolver and by the disk once the files are listed and measured, make the same decisions
about all other file sets, in the same order. -/
theorem scanFolder_apart_from (now : Timestamp) (known : List Path) {path : Path}
    (keeps : resolver.KeepsFileSet) (keepsOther : other.KeepsFileSet)
    (sameAnswers : ∀ fileSet, fileSet.primary ≠ path → resolver fileSet = other fileSet)
    (alike : ∀ file, file ≠ path → later.AnswersAlike laterOther file) :
    (∀ error, scanFolder disk now settings root known resolver stop later = .error error ↔
      ∃ fault, disk.list root settings.imports.isRecursive stop.whileListing = .error fault ∧
        error = SessionError.ofFault fault) ∧
    ∀ files, disk.list root settings.imports.isRecursive stop.whileListing = .ok files →
      ∃ decisions decisionsOther,
        scanFolder disk now settings root known resolver stop later = .ok decisions ∧
        scanFolder disk now settings root known other stop laterOther = .ok decisionsOther ∧
        decisions.filter (fun decision => decision.candidate.path ≠ path) =
          decisionsOther.filter fun decision => decision.candidate.path ≠ path := by
  constructor
  · intro error
    cases listed : disk.list root settings.imports.isRecursive stop.whileListing with
    | error fault =>
      rw [scanFolder_of_unlisted listed]
      simp [eq_comm]
    | ok files =>
      rw [scanFolder_of_listed listed]
      simp
  · intro files listed
    refine ⟨_, _, scanFolder_of_listed listed, scanFolder_of_listed listed, ?_⟩
    rw [filter_decisions keeps, filter_decisions keepsOther]
    apply List.filterMap_congr
    intro fileSet member
    have apart : fileSet.primary ≠ path := by
      simpa using (List.mem_filter.mp member).2
    exact ImportDecision.decision?_congr now settings.imports keeps (sameAnswers fileSet apart)
      (alike fileSet.primary apart)

/-- Three media files, of which the largest one may be missing, and a file that accompanies one. -/
def tvFiles (isMissing : Bool) : List ListedFile :=
  [{ path := .ofString "tv/show.mkv", size := 10, isLocked := true },
    { path := .ofString "tv/big.mkv", size := 500, isMissing },
    { path := .ofString "tv/film.avi", size := 20 }, { path := .ofString "tv/film.nfo" }]

def tvResolver : Resolver := fun fileSet =>
  .ok (some (.ofContent fileSet { id := 3, runtimeMinutes := 45 } []))

def failingResolver : Resolver := fun fileSet =>
  if fileSet.primary.toString = "tv/big.mkv" then .error (.feed "down") else tvResolver fileSet

/-- The largest of three files vanishes once the files are listed, and nothing can be found out about
it. The other two, of which one is in use, fare as if it were still there. -/
theorem scanFolder_apart_from_vanished :
    let vanished : Path := .ofString "tv/big.mkv"
    let disk : Disk := .ofList (tvFiles false) none
    let left : Disk := .ofList (tvFiles true) none
    let scan (resolver : Resolver) (later : Disk) :=
      scanFolder disk .epoch {} (.ofString "tv") [] resolver {} later
    disk.list (.ofString "tv") true (fun _ => false) =
        .ok ((tvFiles false).map ListedFile.path) ∧
      disk.size vanished = .ok 500 ∧ (left.size vanished).isOk = false ∧
      ∃ decisions decisionsOther, scan tvResolver disk = .ok decisions ∧
        scan failingResolver left = .ok decisionsOther ∧
        decisions.filter (fun decision => decision.candidate.path ≠ vanished) =
          decisionsOther.filter fun decision => decision.candidate.path ≠ vanished := by
  refine ⟨rfl, by decide +kernel, by decide +kernel, ?_⟩
  have keeps : tvResolver.KeepsFileSet := by
    rintro fileSet candidate ⟨⟩
    rfl
  have keepsFailing : failingResolver.KeepsFileSet := by
    intro fileSet candidate answered
    unfold failingResolver at answered
    split at answered
    · cases answered
    · exact keeps fileSet candidate answered
  have sameAnswers : ∀ fileSet : FileSet, fileSet.primary ≠ .ofString "tv/big.mkv" →
      tvResolver fileSet = failingResolver fileSet := by
    intro fileSet apart
    have other : fileSet.primary.toString ≠ "tv/big.mkv" := by
      intro same
      apply apart
      rw [← same]
      simp [Path.ofString, Path.toString]
    exact (if_neg other).symm
  have alike : ∀ file, file ≠ .ofString "tv/big.mkv" →
      (Disk.ofList (tvFiles false) none).AnswersAlike (.ofList (tvFiles true) none) file := by
    intro file apart
    have found : Disk.findListed (tvFiles false) file = Disk.findListed (tvFiles true) file := by
      simp [Disk.findListed, tvFiles, List.find?_cons, apart.symm]
    constructor <;> simp only [Disk.ofList, found]
  exact (scanFolder_apart_from .epoch [] keeps keepsFailing sameAnswers alike).2 _ rfl

end Session

end Curator
