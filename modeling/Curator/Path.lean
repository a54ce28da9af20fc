import Curator.Text.Basic

/-! Paths with slashes. A path is its text; its components leave out what does not count: doubled
slashes and every `.` but a leading one. Paths compare by their components. -/
namespace Curator

/-- The name of a place in a tree of folders. -/
structure Path where
  text : List Char
deriving DecidableEq, Repr

namespace Path

inductive Component where
  | root
  | current
  | parent
  | name (text : List Char)
deriving DecidableEq, Repr

def ofString (text : String) : Path :=
  ⟨text.toList⟩

def toString (path : Path) : String :=
  String.ofList path.text

def isAbsolute (path : Path) : Bool :=
  path.text.head? == some '/'

/-- The step for a piece between slashes, if it counts when it does not come first. -/
def Component.ofPiece? (piece : List Char) : Option Component :=
  if piece = [] ∨ piece = ['.'] then none
  else if piece = ['.', '.'] then some .parent
  else some (.name piece)

def components (path : Path) : List Component :=
  let pieces := Text.splitAll '/' path.text
  let leading :=
    if path.isAbsolute then [Component.root]
    else if pieces.head? = some ['.'] then [Component.current]
    else []
  leading ++ pieces.filterMap Component.ofPiece?

/-- Whether the steps begin with those of `folder`. -/
def startsWith (path folder : Path) : Bool :=
  folder.components.isPrefixOf path.components

def fileName? (path : Path) : Option (List Char) :=
  match path.components.getLast? with
  | some (.name text) => some text
  | _ => none

/-- A text without its last piece and the slash before it, reversed. -/
def dropPiece (reversed : List Char) : List Char :=
  reversed.dropWhile (· != '/')

/-- Drop slashes and pieces that do not count from the end of a reversed text. A lone slash
stays. -/
def trimReversed : List Char → List Char
  | ['/'] => ['/']
  | '/' :: rest => trimReversed rest
  | ['.', '/'] => ['/']
  | '.' :: '/' :: rest => trimReversed rest
  | reversed => reversed

/-- The path without trailing slashes and trailing pieces that do not count. -/
def trimmed (path : Path) : Path :=
  ⟨(trimReversed path.text.reverse).reverse⟩

/-- The folder that holds the last step. The root and the empty path have none. -/
def parent? (path : Path) : Option Path :=
  match path.components.getLast? with
  | none | some .root => none
  | some _ => some (trimmed ⟨(dropPiece path.trimmed.text.reverse).reverse⟩)

/-- Stem and extension of a file name. A dot in front does not begin an extension. -/
def splitName (name : List Char) : List Char × Option (List Char) :=
  if name = ['.', '.'] then (name, none)
  else
    match Text.splitLast? '.' name with
    | some ([], _) | none => (name, none)
    | some (stem, extension) => (stem, some extension)

def stem? (path : Path) : Option (List Char) :=
  path.fileName?.map fun name => (splitName name).1

/-- What follows the last dot of the file name. -/
def extension? (path : Path) : Option (List Char) :=
  path.fileName?.bind fun name => (splitName name).2

/-- The path below `folder`; an absolute path stays as it is. -/
def join (folder path : Path) : Path :=
  if path.isAbsolute || folder.text.isEmpty then path
  else if folder.text.getLast? = some '/' then ⟨folder.text ++ path.text⟩
  else ⟨folder.text ++ '/' :: path.text⟩

end Path

end Curator
