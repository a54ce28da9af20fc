import Curator.Fault
import Curator.Path
import Curator.Time.Timestamp

/-! What the library asks of a place where files are kept. A disk is known by the answers to four
questions; where the answers change, it is another disk from then on. -/
namespace Curator

/-- Why a question about a file has no answer. -/
inductive DiskErrorKind where
  | notFound
  | notFolder
  | tooManyLinks
  | nameTooLong
  /-- The path has a character that no path can have. -/
  | invalidPath
  | other
deriving DecidableEq, Repr

/-- A question without an answer, with the wording shown to people. -/
structure DiskError where
  kind : DiskErrorKind
  reason : String
deriving DecidableEq, Repr

/-- The wording of a disk error inside a longer text. -/
def DiskError.message (error : DiskError) : String :=
  s!"IO error: {error.reason}"

/-- A place where files are kept. -/
structure Disk where
  /-- The files under a folder, the folders in it included or not. The last argument tells for every
  look at the signal to stop whether it was raised. -/
  list : Path → Bool → (Nat → Bool) → Except Fault (List Path)
  size : Path → Except DiskError UInt64
  lastWrite : Path → Except DiskError Timestamp
  isLocked : Path → Except DiskError Bool

structure ListedFile where
  path : Path
  size : UInt64 := 0
  modified : Timestamp := .epoch
  isLocked : Bool := false
  isMissing : Bool := false
deriving Repr

namespace Disk

/-- Order of the names in a folder, by their characters. -/
def nameAtMost (left right : List Char) : Bool :=
  compare (left.map Char.toNat) (right.map Char.toNat) != .gt

def missingFolder (path : Path) : Fault :=
  .io s!"folder not found: {path.toString}"

/-- The entry that answers for a path. -/
def findListed (files : List ListedFile) (path : Path) : Except DiskError ListedFile :=
  match files.find? fun file => file.path == path && !file.isMissing with
  | some file => .ok file
  | none => .error { kind := .notFound, reason := "file vanished" }

/-- The disk that holds the files of a list, whatever folder is asked for. Listing looks once at the
signal, and fails when there is a fault. -/
def ofList (files : List ListedFile) (fault : Option Fault) : Disk where
  list _ _ raised :=
    if raised 0 then .error .cancelled
    else
      match fault with
      | some fault => .error fault
      | none => .ok (files.map ListedFile.path)
  size path := (findListed files path).map ListedFile.size
  lastWrite path := (findListed files path).map ListedFile.modified
  isLocked path := (findListed files path).map ListedFile.isLocked

end Disk

end Curator
