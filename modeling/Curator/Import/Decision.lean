import Curator.Import.Rule

/-! Deciding about the file sets of a folder. Every file set is decided alone: one that cannot be
resolved or read gets no decision, and never stops the others. -/
namespace Curator

/-- Finds out what a file set holds; a file set may stay unknown. -/
abbrev Resolver := FileSet → Except Fault (Option Candidate)

/-- The reason against a file set that nothing is known about. -/
def unparseableReason : String := "Unable to parse file"

namespace Candidate

/-- The candidate with the quality that its folder names, where that is better. -/
def withFolderQuality (candidate : Candidate) (folder : Option QualityModel) : Candidate :=
  match candidate.content, folder with
  | some content, some folder =>
    if content.profile.compare folder candidate.quality = .gt then
      { candidate with quality := folder }
    else candidate
  | _, _ => candidate

/-- The candidate marked as existing, where it lies in the folder of its content item. -/
def markExisting (candidate : Candidate) : Candidate :=
  match candidate.content.bind Content.path with
  | some library =>
    if candidate.path.startsWith library then { candidate with isExisting := true } else candidate
  | none => candidate

end Candidate

namespace ImportDecision

/-- The decision about one file set. There is none when the resolver fails or the size of the file
cannot be read. -/
def decide? (disk : Disk) (registry : SpecificationRegistry) (resolver : Resolver)
    (folderQuality : Option QualityModel) (fileSet : FileSet) :
    Except Fault (Option ImportDecision) :=
  match resolver fileSet with
  | .error _ => .ok none
  | .ok none =>
    .ok (some { candidate := .unresolved fileSet, rejections := [{ reason := unparseableReason }] })
  | .ok (some candidate) =>
    let candidate := (candidate.withFolderQuality folderQuality).markExisting
    match disk.size candidate.path with
    | .error _ => .ok none
    | .ok size => (registry.evaluate { candidate with size }).map some

def decideAll (disk : Disk) (registry : SpecificationRegistry) (resolver : Resolver)
    (folderQuality : Option QualityModel) (fileSets : List FileSet) :
    Except Fault (List ImportDecision) := do
  return (← fileSets.mapM (decide? disk registry resolver folderQuality)).filterMap id

end ImportDecision

/-- The file sets whose media file is not among the known ones. -/
def FileSet.withoutKnown (known : List Path) (fileSets : List FileSet) : List FileSet :=
  fileSets.filter fun fileSet => !known.contains fileSet.primary

/-- When the signal to stop a scan is raised: for every look at it, while the files are listed and
then while they are decided about, whether it is up. -/
structure StopSignal where
  whileListing : Nat → Bool := fun _ => false
  whileDeciding : Nat → Bool := fun _ => false

/-- Decide about the files under a folder. Once the signal to stop is raised no further file set is
looked at. By the time the file sets are decided about, the disk may have become another one. -/
def scanFolder (disk : Disk) (now : Timestamp) (settings : ImportSettings) (root : Path)
    (known : List Path) (resolver : Resolver) (stop : StopSignal) (later : Disk := disk) :
    Except Fault (List ImportDecision) := do
  let sets ← FileSets.scan disk root settings.isRecursive stop.whileListing
  let (taken, _) := sets.takeUntil stop.whileDeciding
  ImportDecision.decideAll later (.default later now settings) resolver none
    (FileSet.withoutKnown known taken)

end Curator
