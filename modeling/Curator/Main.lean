import Curator.CommandLine.Run
import Curator.Health.Database
import Std.Time.DateTime.Timestamp

/-! The program at a terminal: it looks up what a request is about, and shows the answer. -/
namespace Curator.Terminal

/-- The bytes of a file that can be read. -/
def bytes? (file : Path) : IO (Option ByteArray) := do
  try return some (← IO.FS.readBinFile file.toString)
  catch _ => return none

/-- What a path leads to, with its place when no links are left in it. -/
def target? (path : Path) : IO (Option (String × IO.FS.Metadata)) := do
  try
    let place ← IO.FS.realPath path.toString
    return some (place.toString, ← place.metadata)
  catch _ => return none

def names (folder : String) : IO (List (List Char)) := do
  try
    let entries ← (← IO.FS.realPath folder).readDir
    return (entries.toList.map (·.fileName.toList)).mergeSort Disk.nameAtMost
  catch _ => return []

/-- The files under a folder at a place. A link to a folder that is being listed is left out, and so
is what lies deeper than the given levels. -/
def filesUnder (isRecursive : Bool) :
    (levels : Nat) → (ancestors : List String) → (place : String) → (folder : Path) →
      IO (List ListedFile)
  | 0, _, _, _ => return []
  | levels + 1, ancestors, place, folder => do
    let ancestors := place :: ancestors
    let found ← (← names place).mapM fun name => do
      let path := folder.join ⟨name⟩
      match ← target? path with
      | some (inner, data) =>
        let isLink := inner != ((Path.ofString place).join ⟨name⟩).toString
        match data.type with
        | .file => return [{ path, size := data.byteSize }]
        | .dir =>
          if isRecursive && !(isLink && ancestors.contains inner) then
            filesUnder isRecursive levels ancestors inner path
          else return []
        | _ => return []
      | none => return []
    return found.flatten

/-- No path goes through more folders. -/
def levelLimit : Nat := 4096

/-- The disk as far as the listing of a folder is concerned. -/
def disk (folder : Path) (isRecursive : Bool) : IO Disk := do
  match ← target? folder with
  | some (place, data) =>
    match data.type with
    | .dir => return Disk.ofList (← filesUnder isRecursive levelLimit [] place folder) none
    | _ => return Disk.ofList [] (some (Disk.missingFolder folder))
  | none => return Disk.ofList [] (some (Disk.missingFolder folder))

def pathNamed (name : String) : IO (Option Path) :=
  return (← IO.getEnv name).map Path.ofString

def sharedFolder? (name usual : String) : IO (Option Path) :=
  return Settings.sharedFolder? (← pathNamed "HOME") (← pathNamed name) usual

/-- The file with the user's settings, when there is one. -/
def userSettings : IO (Option Path) := do
  let file := Settings.file (← sharedFolder? "XDG_CONFIG_HOME" ".config")
  return (← target? file).map fun _ => file

/-- The file with the records of the sources, unless it is damaged. -/
def records : IO (Option RecordFile) := do
  match ← bytes? (Settings.recordFile (← sharedFolder? "XDG_DATA_HOME" ".local/share")) with
  | some bytes => return Database.recordFile? bytes
  | none => return some {}

/-- The instant at which the program looks at the clock. -/
def now : IO Timestamp :=
  return .ofPosition (← Std.Time.Timestamp.now).toNanosecondsSinceUnixEpoch.val

/-- Answer a request. -/
def answer (request : Request) : IO CommandLine.Response := do
  let userSettings ← userSettings
  let contents ← (request.files ++ userSettings.toList).mapM fun file =>
    return (file, (← bytes? file).map ByteArray.toList)
  let disk ← match request.folder? with
    | some (folder, isRecursive) => disk folder isRecursive
    | none => pure (Disk.ofList [] none)
  let records ← records
  let damage : StatusStore.Call → Option StoreFailure := fun _ =>
    if records.isNone then some (.reported (.storage "the records are damaged")) else none
  let now ← now
  return CommandLine.answer
    { disk, userSettings, bytes? := fun file => (contents.lookup file).join
      store := StatusStore.file.faulty damage, records := (records.getD {}).opened, now } request

end Curator.Terminal

def main (arguments : List String) : IO UInt32 := do
  let response ← match Curator.CommandLine.request? (arguments.map String.toList) with
    | some request => Curator.Terminal.answer request
    | none => pure .wrongUsage
  IO.print response.output
  if let some problem := response.problem then IO.eprintln problem
  return response.exitCode.toUInt32
