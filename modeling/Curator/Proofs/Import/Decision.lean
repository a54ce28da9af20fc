import Curator.Proofs.Import.Scan
import Mathlib.Data.List.Forall2

/-! Decisions about file sets, one after the other. What is decided about a file set follows from
what its resolver and the disk answer about it: nothing, that it is unknown, or the verdict of the
rules on its candidate. Before its verdict a candidate gets its size and the quality that its folder
names, where that is better, and is marked as existing where it lies in the library. -/
namespace Curator

theorem QualityProfile.compare_self (profile : QualityProfile) (model : QualityModel) :
    profile.compare model model = .eq := by
  simp [QualityProfile.compare]

namespace Candidate

/-- Whether a quality is better than that of a candidate, as the profile of what it holds has it. -/
def IsBetteredBy (candidate : Candidate) (quality : QualityModel) : Prop :=
  ∃ content, candidate.content = some content ∧
    content.profile.compare quality candidate.quality = .gt

/-- Whether a candidate lies in the folder where the files of its content are kept. -/
def LiesInLibrary (candidate : Candidate) : Prop :=
  ∃ content library, candidate.content = some content ∧ content.path = some library ∧
    library.components <+: candidate.path.components

/-- How the candidate that a resolver found goes to its verdict. -/
structure Readies (disk : Disk) (folderQuality : Option QualityModel)
    (found ready : Candidate) : Prop where
  size : disk.size found.path = .ok ready.size
  isExisting_iff : ready.isExisting = true ↔ found.isExisting = true ∨ found.LiesInLibrary
  bettered : ∀ quality, folderQuality = some quality → found.IsBetteredBy quality →
    ready.quality = quality
  kept : (∀ quality, folderQuality = some quality → ¬ found.IsBetteredBy quality) →
    ready.quality = found.quality
  fileSet : ready.fileSet = found.fileSet
  content : ready.content = found.content
  episodes : ready.episodes = found.episodes
  runtime : ready.runtime = found.runtime
  isSpecial : ready.isSpecial = found.isSpecial

/-- The quality of the folder changes nothing but the quality. -/
theorem exists_withFolderQuality (candidate : Candidate) (folderQuality : Option QualityModel) :
    ∃ quality, candidate.withFolderQuality folderQuality = { candidate with quality } ∧
      (∀ better, folderQuality = some better → candidate.IsBetteredBy better →
        quality = better) ∧
      ((∀ better, folderQuality = some better → ¬ candidate.IsBetteredBy better) →
        quality = candidate.quality) := by
  unfold withFolderQuality
  split
  · rename_i content named holds
    split
    · rename_i above
      refine ⟨named, rfl, fun better same _ => Option.some.inj same, fun notBetter => ?_⟩
      exact absurd ⟨content, holds, above⟩ (notBetter named rfl)
    · rename_i notAbove
      refine ⟨candidate.quality, rfl, ?_, fun _ => rfl⟩
      rintro better ⟨⟩ ⟨other, holdsOther, above⟩
      rw [holds, Option.some_inj] at holdsOther
      exact absurd (holdsOther ▸ above) notAbove
  · rename_i noPair
    refine ⟨candidate.quality, rfl, ?_, fun _ => rfl⟩
    rintro better rfl ⟨content, holds, _⟩
    exact (noPair content better holds rfl).elim

theorem exists_markExisting (candidate : Candidate) :
    ∃ isExisting, candidate.markExisting = { candidate with isExisting } ∧
      (isExisting = true ↔ candidate.isExisting = true ∨ candidate.LiesInLibrary) := by
  have lies_iff : candidate.LiesInLibrary ↔
      ∃ library, candidate.content.bind Content.path = some library ∧
        candidate.path.startsWith library = true := by
    simp only [LiesInLibrary, Option.bind_eq_some_iff, Path.startsWith, List.isPrefixOf_iff_prefix]
    constructor
    · rintro ⟨content, library, holds, kept, inside⟩
      exact ⟨library, ⟨content, holds, kept⟩, inside⟩
    · rintro ⟨library, ⟨content, holds, kept⟩, inside⟩
      exact ⟨content, library, holds, kept, inside⟩
  rw [lies_iff]
  unfold markExisting
  split
  · rename_i library found
    by_cases inside : candidate.path.startsWith library = true
    · exact ⟨true, if_pos inside, by simp [found, inside]⟩
    · exact ⟨candidate.isExisting, if_neg inside, by simp [found, inside]⟩
  · rename_i found
    exact ⟨candidate.isExisting, rfl, by simp [found]⟩

/-- A candidate is readied in two steps, neither of which looks at what the other one changes, and
by its size. -/
theorem readies {disk : Disk} (folderQuality : Option QualityModel) {candidate : Candidate}
    {size : UInt64} (measured : disk.size candidate.path = .ok size) :
    candidate.Readies disk folderQuality
      { (candidate.withFolderQuality folderQuality).markExisting with size } := by
  obtain ⟨quality, changed, bettered, kept⟩ := candidate.exists_withFolderQuality folderQuality
  obtain ⟨isExisting, marked, isExisting_iff⟩ :=
    (candidate.withFolderQuality folderQuality).exists_markExisting
  rw [marked]
  rw [changed] at isExisting_iff ⊢
  exact
    { size := measured, isExisting_iff, bettered, kept, fileSet := rfl, content := rfl
      episodes := rfl, runtime := rfl, isSpecial := rfl }

theorem Readies.unique {disk : Disk} {folderQuality : Option QualityModel}
    {found ready other : Candidate} (readied : found.Readies disk folderQuality ready)
    (readiedOther : found.Readies disk folderQuality other) : ready = other := by
  have size : ready.size = other.size := by
    simpa using readied.size.symm.trans readiedOther.size
  have isExisting : ready.isExisting = other.isExisting :=
    Bool.eq_iff_iff.mpr (readied.isExisting_iff.trans readiedOther.isExisting_iff.symm)
  have quality : ready.quality = other.quality := by
    by_cases better : ∃ quality, folderQuality = some quality ∧ found.IsBetteredBy quality
    · obtain ⟨quality, named, above⟩ := better
      rw [readied.bettered quality named above, readiedOther.bettered quality named above]
    · have notBetter : ∀ quality, folderQuality = some quality → ¬ found.IsBetteredBy quality :=
        fun quality named above => better ⟨quality, named, above⟩
      rw [readied.kept notBetter, readiedOther.kept notBetter]
  cases ready
  cases other
  simp only [Candidate.mk.injEq]
  exact ⟨readied.fileSet.trans readiedOther.fileSet.symm,
    readied.content.trans readiedOther.content.symm,
    readied.episodes.trans readiedOther.episodes.symm, quality, size,
    readied.runtime.trans readiedOther.runtime.symm, isExisting,
    readied.isSpecial.trans readiedOther.isSpecial.symm⟩

/-- A candidate never goes to its verdict with a worse quality than it was found with. -/
theorem Readies.compare_quality_ne_lt {disk : Disk} {folderQuality : Option QualityModel}
    {found ready : Candidate} (readied : found.Readies disk folderQuality ready)
    {content : Content} (holds : found.content = some content) :
    content.profile.compare ready.quality found.quality ≠ .lt := by
  by_cases better : ∃ quality, folderQuality = some quality ∧ found.IsBetteredBy quality
  · obtain ⟨quality, named, other, holdsOther, above⟩ := better
    rw [holds, Option.some_inj] at holdsOther
    subst other
    rw [readied.bettered quality named ⟨content, holds, above⟩, above]
    exact nofun
  · rw [readied.kept fun quality named above => better ⟨quality, named, above⟩,
      QualityProfile.compare_self]
    exact nofun

end Candidate

namespace ImportDecision

/-- What is decided about a file set. -/
inductive Decides (disk : Disk) (registry : SpecificationRegistry) (resolver : Resolver)
    (folderQuality : Option QualityModel) (fileSet : FileSet) : Option ImportDecision → Prop where
  | unresolved {fault : Fault} (answered : resolver fileSet = .error fault) :
    Decides disk registry resolver folderQuality fileSet none
  | unknown (answered : resolver fileSet = .ok none) :
    Decides disk registry resolver folderQuality fileSet
      (some
        { candidate := .unresolved fileSet
          rejections := [{ reason := "Unable to parse file", kind := .rejected }] })
  /-- The resolver finds a candidate of which the size cannot be read. -/
  | unreadable {candidate : Candidate} {error : DiskError}
    (answered : resolver fileSet = .ok (some candidate))
    (unread : disk.size fileSet.primary = .error error) :
    Decides disk registry resolver folderQuality fileSet none
  /-- The resolver finds a candidate, and the rules judge it. -/
  | judged {candidate ready : Candidate} {decision : ImportDecision}
    (answered : resolver fileSet = .ok (some candidate))
    (readied : candidate.Readies disk folderQuality ready)
    (verdict : registry.evaluate ready = .ok decision) :
    Decides disk registry resolver folderQuality fileSet (some decision)

variable {disk : Disk} {registry : SpecificationRegistry} {resolver : Resolver}
  {folderQuality : Option QualityModel} {fileSet : FileSet}

/-- To decide about a file set is to look at what its resolver and the disk answer. -/
theorem decides_iff (keeps : resolver.KeepsFileSet) {answer : Option ImportDecision} :
    Decides disk registry resolver folderQuality fileSet answer ↔
      decision? disk registry resolver folderQuality fileSet = answer := by
  constructor
  · intro decides
    unfold decision? decide?
    cases decides with
    | unresolved answered =>
      rw [answered]
      rfl
    | unknown answered =>
      rw [answered]
      rfl
    | @unreadable candidate error answered unread =>
      have own : ((candidate.withFolderQuality folderQuality).markExisting).path =
          fileSet.primary := by
        simp [Candidate.path, keeps fileSet candidate answered]
      simp only [answered, own, unread]
      rfl
    | @judged candidate ready decision answered readied verdict =>
      have own : ((candidate.withFolderQuality folderQuality).markExisting).path =
          candidate.path := by
        simp [Candidate.path]
      have same := readied.unique (Candidate.readies folderQuality readied.size)
      simp only [answered, own, readied.size, ← same, verdict]
      rfl
  · rintro rfl
    unfold decision? decide?
    cases answered : resolver fileSet with
    | error fault => exact .unresolved answered
    | ok found =>
      cases found with
      | none => exact .unknown answered
      | some candidate =>
        have own : ((candidate.withFolderQuality folderQuality).markExisting).path =
            candidate.path := by
          simp [Candidate.path]
        dsimp only
        rw [own]
        cases measured : disk.size candidate.path with
        | error error =>
          rw [Candidate.path, keeps fileSet candidate answered] at measured
          exact .unreadable answered measured
        | ok size =>
          simp only [SpecificationRegistry.evaluate_eq]
          exact .judged answered (Candidate.readies folderQuality measured)
            (SpecificationRegistry.evaluate_eq _ _)

/-- There is no decision exactly where the resolver fails or the size cannot be read. -/
theorem Decides.eq_none_iff (keeps : resolver.KeepsFileSet) {answer : Option ImportDecision}
    (decides : Decides disk registry resolver folderQuality fileSet answer) :
    answer = none ↔
      (∃ fault, resolver fileSet = .error fault) ∨
        ∃ candidate error, resolver fileSet = .ok (some candidate) ∧
          disk.size fileSet.primary = .error error := by
  cases decides with
  | unresolved answered => exact iff_of_true rfl (.inl ⟨_, answered⟩)
  | unknown answered => simp [answered]
  | unreadable answered unread => exact iff_of_true rfl (.inr ⟨_, _, answered, unread⟩)
  | judged answered readied =>
    have measured := readied.size
    rw [Candidate.path, keeps fileSet _ answered] at measured
    simp [answered, measured]

/-- The file sets of a list are decided about one by one, and no decision fails. There is none about
a file set exactly where its resolver fails or its candidate has no readable size; where the resolver
finds nothing out, that is the decision; else the rules judge the candidate as it was readied, which
never has a worse quality than the one that was found. Lists put together have the decisions about
both. -/
theorem decideAll_decides_each (disk : Disk) (registry : SpecificationRegistry)
    {resolver : Resolver} (folderQuality : Option QualityModel) (keeps : resolver.KeepsFileSet) :
    (∀ fileSets, ∃ answers,
      decideAll disk registry resolver folderQuality fileSets = .ok (answers.filterMap id) ∧
      List.Forall₂ (Decides disk registry resolver folderQuality) fileSets answers) ∧
    (∀ fileSet answer, Decides disk registry resolver folderQuality fileSet answer →
      (∀ other, Decides disk registry resolver folderQuality fileSet other → other = answer) ∧
      (answer = none ↔
        (∃ fault, resolver fileSet = .error fault) ∨
          ∃ candidate error, resolver fileSet = .ok (some candidate) ∧
            disk.size fileSet.primary = .error error)) ∧
    (∀ found ready content, Candidate.Readies disk folderQuality found ready →
      found.content = some content →
        content.profile.compare ready.quality found.quality ≠ .lt) ∧
    ∀ earlier later, ∃ first second,
      decideAll disk registry resolver folderQuality earlier = .ok first ∧
      decideAll disk registry resolver folderQuality later = .ok second ∧
      decideAll disk registry resolver folderQuality (earlier ++ later) =
        .ok (first ++ second) := by
  refine ⟨?_, ?_, fun found ready content readied => readied.compare_quality_ne_lt, ?_⟩
  · intro fileSets
    refine ⟨fileSets.map (decision? disk registry resolver folderQuality), ?_, ?_⟩
    · rw [decideAll_eq, List.filterMap_map]
      rfl
    · rw [List.forall₂_map_right_iff, List.forall₂_same]
      exact fun fileSet _ => (decides_iff keeps).mpr rfl
  · intro fileSet answer decides
    refine ⟨fun other decidesOther => ?_, decides.eq_none_iff keeps⟩
    rw [← (decides_iff keeps).mp decidesOther, (decides_iff keeps).mp decides]
  · intro earlier later
    refine ⟨_, _, decideAll_eq .., decideAll_eq .., ?_⟩
    rw [decideAll_eq, List.filterMap_append]

def showSets : List FileSet :=
  ["tv/down.mkv", "tv/odd.mkv", "tv/gone.mkv", "tv/Show/./01.mkv", "tv/02.mkv"].map fun path =>
    { primary := .ofString path }

/-- A resolver that fails about one file, knows nothing about another, and takes all others for the
show. -/
def showResolver : Resolver := fun fileSet =>
  if fileSet.primary = .ofString "tv/down.mkv" then .error (.feed "down")
  else if fileSet.primary = .ofString "tv/odd.mkv" then .ok none
  else
    .ok (some
      { fileSet, quality := .proper .dvd
        content := some
          { id := 3, runtimeMinutes := 45, profile := { items := [.dvd, .sdtv] }
            path := some (.ofString "tv//Show") } })

/-- Of five files two get the verdict of the rules, both with the better quality that the folder
names; one of them lies in the library. -/
theorem decideAll_decides_each_of_showSets :
    let disk : Disk := .ofList
      [{ path := .ofString "tv/Show/./01.mkv", size := 7 },
        { path := .ofString "tv/02.mkv", size := 9, isLocked := true }] none
    let registry : SpecificationRegistry := .default disk .epoch {}
    let folderQuality : QualityModel := { quality := .sdtv }
    showResolver.KeepsFileSet ∧
    ∃ answers,
      decideAll disk registry showResolver (some folderQuality) showSets =
        .ok (answers.filterMap id) ∧
      List.Forall₂ (Decides disk registry showResolver (some folderQuality)) showSets answers ∧
      (answers.map fun answer => answer.map fun decision =>
          (decision.candidate.quality.quality, decision.candidate.size,
            decision.candidate.isExisting, decision.reasons)) =
        [none, some (.unknown, 0, false, ["Unable to parse file"]), none,
          some (.sdtv, 7, true, []), some (.sdtv, 9, false, ["File is in use"])] := by
  intro disk registry folderQuality
  have keeps : showResolver.KeepsFileSet := by
    intro fileSet candidate answered
    unfold showResolver at answered
    split at answered
    · cases answered
    · split at answered
      · cases answered
      · cases answered
        rfl
  obtain ⟨answers, decided, each⟩ :=
    (decideAll_decides_each disk registry (some folderQuality) keeps).1 showSets
  refine ⟨keeps, answers, decided, each, ?_⟩
  have answered : showSets.map (decision? disk registry showResolver (some folderQuality)) =
      answers := by
    rw [← List.forall₂_eq_eq_eq, List.forall₂_map_left_iff]
    exact each.imp fun _ _ => (decides_iff keeps).mp
  rw [← answered]
  decide +kernel

end ImportDecision

end Curator
