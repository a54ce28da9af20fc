import Curator.Disk.Basic
import Curator.Text.Lowercase

/-! Media files with the files that accompany them. The largest media file comes first, and each one
claims what is left of the other files whose path continues its own path without the extension. -/
namespace Curator

/-- The extensions of media files in small letters. -/
def mediaExtensions : List String :=
  ["3gp", "asf", "asx", "avc", "avi", "bin", "bivx", "dat", "divx", "dv",
    "dvr-ms", "fli", "flv", "ifo", "img", "iso", "m2ts", "m2v", "m3u", "m4v",
    "mk3d", "mkv", "mov", "mp4", "mpeg", "mpg", "nrg", "nsv", "nuv", "ogm",
    "ogv", "pva", "qt", "rm", "rmvb", "strm", "svq3", "ts", "ty", "viv",
    "vob", "vp3", "webm", "wmv", "wpl", "wtv", "xvid"]

/-- Whether a path has an extension of the list, in any case. -/
def Path.hasExtension (path : Path) (extensions : List String) : Bool :=
  match path.extension? with
  | some extension => extensions.any (·.toList == Text.asciiLowercase extension)
  | none => false

def Path.isMedia (path : Path) : Bool :=
  path.hasExtension mediaExtensions

def Path.key (path : Path) : List Char :=
  Text.lowercase path.text

structure FileSet where
  primary : Path
  companions : List Path := []
deriving DecidableEq, Repr

/-- What the path of a companion begins with, in small letters: the path of the media file up to the
dot before its extension. -/
def FileSet.claim (primary : Path) : List Char :=
  let stem : Path := ⟨primary.stem?.getD []⟩
  let base := match primary.parent? with
    | some folder => folder.join stem
    | none => stem
  Text.lowercase (base.text ++ ['.'])

def FileSet.claims (primary other : Path) : Bool :=
  Text.startsWith other.key (FileSet.claim primary)

/-- The media files still to come, and the other files that none has claimed so far. -/
structure FileSets where
  media : List Path
  unclaimed : List Path
deriving DecidableEq, Repr

namespace FileSets

/-- The media files whose size is known, the largest first; equal ones keep their order. -/
def bySize (disk : Disk) (media : List Path) : List Path :=
  ((media.filterMap fun path => (disk.size path).toOption.map fun size => (path, size)).mergeSort
    fun left right => right.2 ≤ left.2).map Prod.fst

def ofListing (disk : Disk) (files : List Path) : FileSets where
  media := bySize disk (files.filter Path.isMedia)
  unclaimed := files.filter fun path => !path.isMedia

def scan (disk : Disk) (root : Path) (recursive : Bool) (raised : Nat → Bool) :
    Except Fault FileSets :=
  (disk.list root recursive raised).map (ofListing disk)

/-- The next file set and what is left after it. There is none once the signal to stop is raised. -/
def next? (sets : FileSets) (raised : Bool) : Option (FileSet × FileSets) :=
  match raised, sets.media with
  | true, _ | _, [] => none
  | false, primary :: media =>
    some
      ({ primary, companions := sets.unclaimed.filter (FileSet.claims primary) },
        { media, unclaimed := sets.unclaimed.filter fun path => !FileSet.claims primary path })

/-- The file sets that come before the signal to stop, which is looked at before each, and what is
left after them. -/
def consume (raised : Nat → Bool) : (media unclaimed : List Path) → List FileSet × FileSets
  | [], unclaimed => ([], { media := [], unclaimed })
  | primary :: media, unclaimed =>
    if raised 0 then ([], { media := primary :: media, unclaimed })
    else
      let (sets, left) :=
        consume (fun look => raised (look + 1)) media
          (unclaimed.filter fun path => !FileSet.claims primary path)
      ({ primary, companions := unclaimed.filter (FileSet.claims primary) } :: sets, left)

/-- The file sets up to the signal, and what is left after them. -/
def takeUntil (raised : Nat → Bool) (sets : FileSets) : List FileSet × FileSets :=
  consume raised sets.media sets.unclaimed

def run (sets : FileSets) : List FileSet × List Path :=
  let (taken, left) := sets.takeUntil fun _ => false
  (taken, left.unclaimed)

end FileSets

end Curator
