import Curator.CommandLine.Help
import Curator.CommandLine.Report
import Curator.Session

/-! What the program answers to its arguments. -/
namespace Curator.CommandLine

/-- What the program finds around it. -/
structure Surroundings (σ : Type) where
  disk : Disk
  bytes? : Path → Option (List UInt8)
  userSettings : Option Path
  store : StatusStore σ
  records : σ
  now : Timestamp

/-- What the program leaves behind. -/
structure Response where
  exitCode : Nat := 0
  lines : List String := []
  /-- What went wrong, for the standard error. -/
  problem : Option String := none
deriving DecidableEq, Repr

namespace Response

def wrongUsage : Response where
  exitCode := 2
  problem := some (usage .program)

def failure (problem : String) : Response where
  exitCode := 1
  problem := some problem

/-- The answer when the program breaks down. -/
def breakdown : Response where
  exitCode := 101
  problem := some "the program broke down"

def ofOutcome (outcome : Except (Failure String) (List String)) : Response :=
  match outcome with
  | .ok lines => { lines }
  | .error (.reported problem) => failure problem
  | .error .crashed => breakdown

def output (response : Response) : String :=
  response.lines.foldl (fun text line => text ++ line ++ "\n") ""

end Response

variable {σ : Type}

/-- The settings of a run: those in a file that is named, else those of the user, else the usual
ones. -/
def settings (surroundings : Surroundings σ) (file : Option Path) : Except Fault Settings :=
  match file <|> surroundings.userSettings with
  | some file =>
    match (surroundings.bytes? file).bind Text.decodeUtf8? with
    | some text => Settings.read text
    | none => .error (.config s!"{file.toString}: cannot be read")
  | none => .ok {}

/-- The source that a saved feed is taken to come from. -/
def savedSource (file : Path) (url : List Char) : Source where
  id := 0
  name := file.stem?.getD "feed".toList
  url

def listReleases (surroundings : Surroundings σ) (file : Path) (url : List Char) :
    Except (Failure String) (List String) :=
  match surroundings.bytes? file with
  | none => .error (.reported s!"{file.toString}: cannot be read")
  | some document =>
    match FeedDocument.releases (savedSource file url) document with
    | .ok releases => .ok (Report.releases surroundings.now releases)
    | .error (.reported fault) => .error (.reported fault.message)
    | .error .crashed => .error .crashed

def listFiles (surroundings : Surroundings σ) (folder : Path) (isRecursive : Bool) :
    Except (Failure String) (List String) :=
  match FileSets.scan surroundings.disk folder isRecursive fun _ => false with
  | .ok sets =>
    let (taken, unclaimed) := sets.run
    .ok (Report.fileSets taken unclaimed)
  | .error fault => .error (.reported fault.message)

def listStatuses (surroundings : Surroundings σ) (settings : Settings) (source : Option Int) :
    Except (Failure String) (List String) :=
  let action : StoreAction σ (List SourceStatus) :=
    match source with
    | some id => return [← surroundings.store.status id]
    | none => surroundings.store.all
  match (action.run.run surroundings.records).1 with
  | .ok statuses => .ok (Report.statuses settings.sources surroundings.now statuses)
  | .error failure => .error (.reported (SessionError.ofStoreFailure failure).message)

def carryOut (surroundings : Surroundings σ) (settings : Settings) :
    Command → Except (Failure String) (List String)
  | .feed file url => listReleases surroundings file url
  | .files folder isRecursive => listFiles surroundings folder isRecursive
  | .status source => listStatuses surroundings settings source

/-- Answer a request. Without readable settings no command is carried out. -/
def answer (surroundings : Surroundings σ) : Request → Response
  | .help topic => { lines := help topic }
  | .run file command =>
    match settings surroundings file with
    | .error fault => .failure s!"Error loading configuration: {fault.message}"
    | .ok settings => .ofOutcome (carryOut surroundings settings command)

def run (surroundings : Surroundings σ) (arguments : List (List Char)) : Response :=
  match request? arguments with
  | some request => answer surroundings request
  | none => .wrongUsage

end Curator.CommandLine
