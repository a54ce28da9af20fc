import Curator.Import.Decision
import Curator.Sync.Pass

/-! What a session of the program offers: the records of the sources, and decisions about the files
in a folder. A session tells faults by what a user can do about them. -/
namespace Curator

/-- Why a session could not do something. -/
inductive SessionError where
  | config (reason : String)
  | storage (reason : String)
  | fetch (reason : String)
  | crashed
  | cancelled
deriving DecidableEq, Repr

namespace SessionError

def message : SessionError → String
  | config reason => s!"config error: {reason}"
  | storage reason => s!"storage error: {reason}"
  | fetch reason => s!"fetch error: {reason}"
  | crashed => "background task failed"
  | cancelled => "operation cancelled"

def ofFault : Fault → SessionError
  | .config reason => config reason
  | .missingReason rule => config (Fault.missingReason rule).message
  | .feed reason => fetch reason
  | .cancelled => cancelled
  | fault => storage fault.message

/-- The error that a failure of a store is to a user. -/
def ofStoreFailure : StoreFailure → SessionError
  | .reported fault => ofFault fault
  | .crashed => crashed

end SessionError

namespace Session

def statuses {σ : Type} (store : StatusStore σ) :
    StateM σ (Except SessionError (List SourceStatus)) :=
  return (← store.all.run).mapError SessionError.ofStoreFailure

/-- The decisions about the files under a folder, as the settings want it to be scanned. The disk is
`later` by the time the file sets are decided about. -/
def scanFolder (disk : Disk) (now : Timestamp) (settings : Settings) (root : Path)
    (known : List Path) (resolver : Resolver) (stop : StopSignal) (later : Disk := disk) :
    Except SessionError (List ImportDecision) :=
  (Curator.scanFolder disk now settings.imports root known resolver stop later).mapError
    SessionError.ofFault

end Session

end Curator
