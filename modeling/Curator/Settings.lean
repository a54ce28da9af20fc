import Curator.Fault
import Curator.Import.Rule
import Curator.Source
import Curator.Toml.Document

/-! The settings of a user, as they are kept in a file. What a file leaves out has a default value,
and what it says beyond the settings does not count. -/
namespace Curator

structure Settings where
  /-- Where files with reports of the program's work go. -/
  logFolder : Option Path := none
  imports : ImportSettings := {}
  sources : List Source := []
deriving DecidableEq, Repr

namespace Settings

open Toml

/-- The first source with an id. -/
def source? (settings : Settings) (id : Int) : Option Source :=
  settings.sources.find? (·.id == id)

/-- The sources that are asked for releases, in order. -/
def enabledSources (settings : Settings) : List Source :=
  settings.sources.filter (·.enabled)

def optional {α : Type} (read : Value → Option α) (missing : α) (part : Option Value) : Option α :=
  match part with
  | some value => read value
  | none => some missing

/-- The names of the checks of files in working folders. -/
def checkNames : List (String × UnpackingCheck) :=
  [("auto", .auto), ("modified_time", .modifiedTime), ("always", .always)]

def readCheck? (value : Value) : Option UnpackingCheck := do
  checkNames.lookup (String.ofList (← value.choice?))

def readImports? (value : Value) : Option ImportSettings := do
  let part ← value.part?
  let missing : ImportSettings := {}
  return {
    workingFolders := ← optional (fun list => do (← list.members?).mapM Value.text?)
      missing.workingFolders (part 0 "working_folders")
    isRecursive := ← optional Value.truth? missing.isRecursive (part 1 "recursive_scan")
    unpackingCheck := ← optional readCheck? missing.unpackingCheck (part 2 "unpacking_check") }

def readSource? (value : Value) : Option Source := do
  let part ← value.part?
  return {
    id := ← (← part 0 "id").integer? 9223372036854775808
    name := ← (← part 1 "name").text?
    url := ← (← part 2 "url").text?
    enabled := ← optional Value.truth? true (part 3 "enabled")
    weight := ← optional (Value.integer? 2147483648) 0 (part 4 "weight") }

def readLogFolder? (value : Value) : Option (Option Path) := do
  optional (fun path => path.text?.map fun text => some (Path.mk text)) none
    ((← value.part?) 0 "log_dir")

/-- The settings in the entries of a document. -/
def ofEntries? (entries : Entries) : Option Settings := do
  let part (name : String) := entries.lookup name.toList
  return {
    logFolder := ← optional readLogFolder? none (part "general")
    imports := ← optional readImports? {} (part "import")
    sources := ← optional (fun list => do (← list.members?).mapM readSource?) [] (part "sources") }

def read (text : List Char) : Except Fault Settings :=
  match Document.read? text with
  | none => .error (.config "not a TOML document")
  | some entries =>
    match ofEntries? entries with
    | some settings => .ok settings
    | none => .error (.config "a setting is missing or has a value of another kind")

def renderLine (key : String) (value : List Char) : List Char :=
  key.toList ++ " = ".toList ++ value ++ ['\n']

def renderTruth (value : Bool) : List Char :=
  if value then "true".toList else "false".toList

def renderInteger (value : Int) : List Char :=
  (toString value).toList

def renderTexts (texts : List (List Char)) : List Char :=
  '[' :: texts.flatMap (fun text => Quoted.render text ++ [',']) ++ [']']

/-- The name of a check of files in working folders. -/
def checkName : UnpackingCheck → String
  | .auto => "auto"
  | .modifiedTime => "modified_time"
  | .always => "always"

def renderSource (source : Source) : List Char :=
  "[[sources]]\n".toList ++
    renderLine "id" (renderInteger source.id) ++
    renderLine "name" (Quoted.render source.name) ++
    renderLine "url" (Quoted.render source.url) ++
    renderLine "enabled" (renderTruth source.enabled) ++
    renderLine "weight" (renderInteger source.weight)

def render (settings : Settings) : List Char :=
  let check := checkName settings.imports.unpackingCheck
  "[general]\n".toList ++
    (settings.logFolder.elim [] fun folder => renderLine "log_dir" (Quoted.render folder.text)) ++
    "[import]\n".toList ++
    renderLine "working_folders" (renderTexts settings.imports.workingFolders) ++
    renderLine "recursive_scan" (renderTruth settings.imports.isRecursive) ++
    renderLine "unpacking_check" (Quoted.render check.toList) ++
    settings.sources.flatMap renderSource

/-- The program's folder in folders that programs share. -/
def folderName : String := "senbetsu"

def fileName : Path := .ofString "config.toml"

def recordFileName : Path := .ofString "senbetsu.db"

/-- A file of the program in a folder that programs share, or where the program runs. -/
def place (folder : Option Path) (name : Path) : Path :=
  match folder with
  | some folder => (folder.join (.ofString folderName)).join name
  | none => name

def file (folder : Option Path) : Path :=
  place folder fileName

def recordFile (folder : Option Path) : Path :=
  place folder recordFileName

/-- A folder that programs share: the named one when its path is absolute, else the usual one in the
home folder. Without a home folder there is none. -/
def sharedFolder? (home named : Option Path) (usual : String) : Option Path :=
  match home.filter fun home => !home.text.isEmpty, named.filter Path.isAbsolute with
  | none, _ => none
  | some _, some named => some named
  | some home, none => some (home.join (.ofString usual))

end Settings

end Curator
