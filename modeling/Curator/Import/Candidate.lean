import Curator.Content
import Curator.Disk.FileSet

/-! File sets with what is known about them: candidates for being taken into the library. -/
namespace Curator

/-- A file set, the content item it seems to hold, and what its media file is like. -/
structure Candidate where
  fileSet : FileSet
  content : Option Content := none
  episodes : List Episode := []
  quality : QualityModel := {}
  size : UInt64 := 0
  /-- Playing time in nanoseconds. -/
  runtime : Option Nat := none
  /-- Whether the file already lies where the item's files are kept. -/
  isExisting : Bool := false
  isSpecial : Bool := false
deriving DecidableEq, Repr

namespace Candidate

/-- The candidate for a content item. Any special among the episodes makes it a special. -/
def ofContent (fileSet : FileSet) (content : Content) (episodes : List Episode) : Candidate :=
  { fileSet, content := some content, episodes, isSpecial := episodes.any Episode.isSpecial }

def unresolved (fileSet : FileSet) : Candidate :=
  { fileSet }

def path (candidate : Candidate) : Path :=
  candidate.fileSet.primary

end Candidate

end Curator
