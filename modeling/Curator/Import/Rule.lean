import Curator.Import.Sample
import Curator.Import.Specification

/-! The rules that every import uses: the file is no sample, is not being unpacked, and is not in
use. A file that already lies in the library satisfies them all. -/
namespace Curator

/-- How to tell that a file in a working folder is still being unpacked. -/
inductive UnpackingCheck where
  /-- As the platform allows: here a file in a working folder always counts. -/
  | auto
  | modifiedTime
  | always
deriving DecidableEq, Repr

/-- The check that is carried out. -/
def UnpackingCheck.resolve : UnpackingCheck → UnpackingCheck
  | auto => always
  | check => check

/-- Nanoseconds that must have passed since the last change of a file: five minutes. -/
def freshness : Nat := 300 * nanosPerSecond

namespace Rule

def notSample : Specification where
  name := "NotSample"
  reason := "Sample"
  holds candidate :=
    if candidate.isExisting then .ok true
    else
      match candidate.content with
      | none => .error (.unavailable "content item")
      | some content =>
        let status := SampleStatus.of content candidate.path candidate.isSpecial candidate.runtime
        .ok (status != .sample)

/-- Whether the folder of a file has a name that begins with one of the markers. -/
def inWorkingFolder (markers : List (List Char)) (path : Path) : Bool :=
  let folder := (path.parent?.bind Path.fileName?).getD []
  markers.any fun marker => !marker.isEmpty && Text.startsWith folder marker

def notUnpacking (disk : Disk) (now : Timestamp) (markers : List (List Char))
    (check : UnpackingCheck) : Specification where
  name := "NotUnpacking"
  reason := "File is still being unpacked"
  holds candidate :=
    if candidate.isExisting || !inWorkingFolder markers candidate.path then .ok true
    else if check.resolve = .always then .ok false
    else
      match disk.lastWrite candidate.path with
      | .ok changed => .ok !(now.add (-freshness)).before changed
      | .error error => .error (.disk error)

def notInUse (disk : Disk) : Specification where
  name := "NotInUse"
  reason := "File is in use"
  holds candidate :=
    if candidate.isExisting then .ok true
    else
      match disk.isLocked candidate.path with
      | .ok isLocked => .ok !isLocked
      | .error error => .error (.disk error)

end Rule

/-- How folders are scanned for files to import. -/
structure ImportSettings where
  /-- What the name of a folder begins with while files are unpacked into it. -/
  workingFolders : List (List Char) := ["_UNPACK_".toList, "_FAILED_".toList]
  isRecursive : Bool := true
  unpackingCheck : UnpackingCheck := .auto
deriving DecidableEq, Repr

namespace SpecificationRegistry

def default (disk : Disk) (now : Timestamp) (settings : ImportSettings) :
    SpecificationRegistry where
  specifications :=
    [Rule.notSample, Rule.notUnpacking disk now settings.workingFolders settings.unpackingCheck,
      Rule.notInUse disk]
  hasReason := by
    intro specification member
    simp only [List.mem_cons, List.not_mem_nil, or_false] at member
    rcases member with rfl | rfl | rfl <;>
      simp only [Specification.hasReason, Rule.notSample, Rule.notUnpacking, Rule.notInUse] <;>
      decide

end SpecificationRegistry

end Curator
