import Curator.Disk.Basic

/-! A tree of folders, files and links. Paths are followed as in a file system: links are replaced
by their targets, and a link that leads back to a folder being listed is left out. -/
namespace Curator

/-- The names that lead from the root to a node. -/
abbrev Location := List (List Char)

inductive Contents where
  | zeros (count : UInt64)
  | bytes (data : ByteArray)

def Contents.size : Contents → UInt64
  | zeros count => count
  | bytes data => data.size.toUInt64

def Contents.data : Contents → ByteArray
  | zeros count => ⟨Array.replicate count.toNat 0⟩
  | bytes data => data

inductive Node where
  | folder
  | file (contents : Contents) (modified : Timestamp) (isHeld : Bool)
  | link (target : Path)

/-- A tree with the folder that relative paths start from. The root is a folder without an entry. -/
structure Tree where
  entries : List (Location × Node) := []
  working : Location := []

namespace Tree

def notFound : DiskError := { kind := .notFound, reason := "os error 2" }

def notFolder : DiskError := { kind := .notFolder, reason := "os error 20" }

def tooManyLinks : DiskError := { kind := .tooManyLinks, reason := "os error 40" }

def nameTooLong : DiskError := { kind := .nameTooLong, reason := "os error 36" }

def invalidPath : DiskError :=
  { kind := .invalidPath, reason := "file name contained an unexpected NUL byte" }

/-- How many links are followed on the way along one path. -/
def linkLimit : Nat := 40

def nameLimit : Nat := 255

def node? (tree : Tree) (location : Location) : Option Node :=
  if location.isEmpty then some .folder
  else (tree.entries.find? (·.1 == location)).map Prod.snd

def isFolder (tree : Tree) (location : Location) : Bool :=
  match tree.node? location with
  | some .folder => true
  | _ => false

def pieces (path : Path) : List (List Char) :=
  Text.splitAll '/' path.text

/-- The location that pieces lead to from a folder, through at most `links` links. -/
def follow (tree : Tree) (links : Nat) (here : Location) :
    List (List Char) → Except DiskError Location
  | [] => .ok here
  | piece :: rest =>
    if !tree.isFolder here then .error notFolder
    else if piece = [] ∨ piece = ['.'] then follow tree links here rest
    else if piece = ['.', '.'] then follow tree links here.dropLast rest
    else
      match tree.node? (here ++ [piece]) with
      | none =>
        .error
          (if nameLimit < (String.ofList piece).utf8ByteSize then nameTooLong else notFound)
      | some (.link target) =>
        match links with
        | 0 => .error tooManyLinks
        | links + 1 =>
          follow tree links (if target.isAbsolute then [] else here) (pieces target ++ rest)
      | some _ => follow tree links (here ++ [piece]) rest
termination_by pieces => (links, pieces.length)

def start (tree : Tree) (path : Path) : Location :=
  if path.isAbsolute then [] else tree.working

def locate (tree : Tree) (path : Path) : Except DiskError Location :=
  if path.text.contains '\x00' then .error invalidPath
  else if path.text.isEmpty then .error notFound
  else tree.follow linkLimit (tree.start path) (pieces path)

/-- The node that a path leads to. -/
def lookup (tree : Tree) (path : Path) : Except DiskError Node :=
  match tree.locate path with
  | .ok location => ((tree.node? location).map Except.ok).getD (.error notFound)
  | .error error => .error error

def names (tree : Tree) (folder : Location) : List (List Char) :=
  (tree.entries.filterMap fun (location, _) =>
    match location.getLast? with
    | some name => if location.dropLast == folder then some name else none
    | none => none).mergeSort Disk.nameAtMost

/-- Where listing goes on from an entry. -/
inductive Visit where
  | skip
  | report
  | enter (folder : Location)

/-- What listing does with a name in a folder. A link to one of the folders that are being listed is
skipped. -/
def visit (tree : Tree) (ancestors : List Location) (folder : Location) (name : List Char) :
    Visit :=
  let isLink := match tree.node? (folder ++ [name]) with
    | some (.link _) => true
    | _ => false
  match tree.follow linkLimit folder [name] with
  | .error _ => .skip
  | .ok location =>
    match tree.node? location with
    | some .folder => if isLink && ancestors.contains location then .skip else .enter location
    | some (.file _ _ _) => .report
    | _ => .skip

/-- The entries under a folder in the order in which listing comes to them, files with their paths.
It goes down at most `depth` levels. -/
def visits (tree : Tree) (recursive : Bool) (depth : Nat) (ancestors : List Location)
    (folder : Location) (path : Path) : List (Option Path) :=
  match depth with
  | 0 => []
  | depth + 1 =>
    (tree.names folder).flatMap fun name =>
      let here := path.join ⟨name⟩
      match tree.visit ancestors folder name with
      | .skip => [none]
      | .report => [some here]
      | .enter location =>
        none ::
          (if recursive then visits tree recursive depth (location :: ancestors) location here
          else [])

/-- Levels that listing can go down: every link leads to a folder not yet being listed. -/
def depthLimit (tree : Tree) : Nat :=
  (tree.entries.length + 2) * (tree.entries.length + 2)

/-- The files under a folder. The signal is looked at once for every entry. -/
def listFiles (tree : Tree) (root : Path) (recursive : Bool) (raised : Nat → Bool) :
    Except Fault (List Path) :=
  match tree.locate root with
  | .ok folder =>
    if tree.isFolder folder then
      let entries := tree.visits recursive tree.depthLimit [folder] folder root
      if (List.range entries.length).any raised then .error .cancelled
      else .ok (entries.filterMap id)
    else .error (Disk.missingFolder root)
  | .error _ => .error (Disk.missingFolder root)

def folderSize : UInt64 := 4096

def disk (tree : Tree) : Disk where
  list := tree.listFiles
  size path := (tree.lookup path).map fun
    | .file contents _ _ => contents.size
    | _ => folderSize
  lastWrite path := (tree.lookup path).map fun
    | .file _ modified _ => modified
    | _ => .epoch
  isLocked path :=
    match tree.lookup path with
    | .ok (.file _ _ isHeld) => .ok isHeld
    | .ok _ => .ok true
    | .error error => if error.kind = .notFound then .error error else .ok true

/-- The bytes of the file that a path leads to. -/
def bytes? (tree : Tree) (path : Path) : Option ByteArray :=
  match tree.lookup path with
  | .ok (.file contents _ _) => some contents.data
  | _ => none

/-- The location that a path is to have. What is there already is followed, what is not is taken by
its name. So is the last piece, except that up to `links` links are followed from there. -/
def placeFrom (tree : Tree) (links : Nat) (here : Location) : List (List Char) → Location
  | [] => here
  | piece :: rest =>
    if piece = [] ∨ piece = ['.'] then placeFrom tree links here rest
    else if piece = ['.', '.'] then placeFrom tree links here.dropLast rest
    else if rest.isEmpty then
      match links, tree.node? (here ++ [piece]) with
      | links + 1, some (.link target) =>
        placeFrom tree links (if target.isAbsolute then [] else here) (pieces target)
      | _, _ => here ++ [piece]
    else
      match tree.follow linkLimit here [piece] with
      | .ok location => placeFrom tree links location rest
      | .error _ => placeFrom tree links (here ++ [piece]) rest
termination_by pieces => (links, pieces.length)

/-- The location that a new node is to have. -/
def place (tree : Tree) (links : Nat) (path : Path) : Location :=
  tree.placeFrom links (tree.start path) (pieces path)

/-- Put a node at a location, in the place of an earlier one. -/
def insertAt (tree : Tree) (location : Location) (node : Node) : Tree :=
  { tree with
    entries := tree.entries.filter (fun entry => !(entry.1 == location)) ++ [(location, node)] }

def makeFolders (tree : Tree) (location : Location) : Tree :=
  ((List.range location.length).map fun count => location.take count).foldl
    (fun tree folder =>
      if (tree.node? folder).isNone then tree.insertAt folder .folder else tree) tree

/-- Put a node where a path leads, and folders on the way. -/
def insert (tree : Tree) (path : Path) (node : Node) : Tree :=
  let location := tree.place 0 path
  (tree.makeFolders location).insertAt location node

/-- Make a folder, unless the path leads to one. -/
def makeFolder (tree : Tree) (path : Path) : Tree :=
  match tree.locate path with
  | .ok location => if tree.isFolder location then tree else tree.insert path .folder
  | .error _ => tree.insert path .folder

/-- Write a file. A link in its place leads to the file that is written, and one that is held stays
so. -/
def write (tree : Tree) (path : Path) (contents : Contents) (modified : Timestamp) : Tree :=
  let location := tree.place linkLimit path
  let isHeld := match tree.node? location with
    | some (.file _ _ isHeld) => isHeld
    | _ => false
  (tree.makeFolders location).insertAt location (.file contents modified isHeld)

/-- Take away what a path leads to, and what is below it. -/
def remove (tree : Tree) (path : Path) : Tree :=
  let location := tree.place 0 path
  { tree with entries := tree.entries.filter fun entry => !location.isPrefixOf entry.1 }

def hold (tree : Tree) (path : Path) : Tree :=
  match tree.locate path with
  | .ok location =>
    match tree.node? location with
    | some (.file contents modified _) => tree.insertAt location (.file contents modified true)
    | _ => tree
  | .error _ => tree

def releaseAll (tree : Tree) : Tree :=
  { tree with
    entries := tree.entries.map fun (location, node) =>
      (location, match node with
        | .file contents modified _ => .file contents modified false
        | node => node) }

end Tree

end Curator
