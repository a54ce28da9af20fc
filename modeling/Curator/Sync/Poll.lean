import Curator.Feed.Document
import Curator.Health.Tracker

/-! Polling a source for releases. A poll goes in steps, between which polls of other sources may
touch the store; what the store cannot tell or keep never stops a poll. A poll may break down over
what its source sends, and may be broken off when another one breaks down. -/
namespace Curator

/-- Why nothing came from a source. -/
structure FetchFailure where
  message : String
  /-- For how many nanoseconds at least the source wants to be left alone. -/
  retryAfter : Option Nat := none
deriving DecidableEq, Repr

/-- What comes from a source that is asked: a document, or a failure. -/
abbrev FetchAnswer := Except FetchFailure (List UInt8)

/-- What became of a source in a poll. -/
inductive SyncOutcome where
  /-- The source is left alone at present, and was not asked. -/
  | skipped
  | failed (message : String)
  /-- The newest release of the last poll was seen again, or there was none, when it is
  `fullyCaught`. -/
  | synced (releases : List Release) (fullyCaught : Bool)
deriving DecidableEq, Repr

/-- The steps of a poll that are still to be done, on a store with contents of type `σ`. -/
inductive Poll (σ : Type) where
  /-- The poll has come to an outcome, or broke down without any. -/
  | finished (outcome : Option SyncOutcome)
  | fetch (next : FetchAnswer → Poll σ)
  /-- Look at the contents of the store and change them, with nothing in between. A step in the
  midst of notes, which `goesOn`, is made even if the poll is broken off. -/
  | visit (goesOn : Bool) (change : σ → σ) (next : σ → Poll σ)

namespace Poll

variable {σ : Type}

/-- A step that calls the store. -/
def attempt {α : Type} (goesOn : Bool) (action : StoreAction σ α)
    (next : Except StoreFailure α → Poll σ) : Poll σ :=
  .visit goesOn (fun contents => (action.run.run contents).2)
    fun contents => next (action.run.run contents).1

/-- The outcome of a poll that has come to one. -/
def outcome? : Poll σ → Option SyncOutcome
  | finished outcome => outcome
  | _ => none

def isBroken : Poll σ → Bool
  | finished none => true
  | _ => false

/-- One step, with the answer that the source gives if it is asked. -/
def advance (answer : FetchAnswer) (poll : Poll σ) (contents : σ) : Poll σ × σ :=
  match poll with
  | finished outcome => (finished outcome, contents)
  | fetch next => (next answer, contents)
  | visit _ change next => (next contents, change contents)

def run (answer : FetchAnswer) : Poll σ → σ → Option SyncOutcome × σ
  | finished outcome, contents => (outcome, contents)
  | fetch next, contents => (next answer).run answer contents
  | visit _ change next, contents => (next contents).run answer (change contents)

/-- The steps that a poll still makes when it is broken off. -/
def breakOff : Poll σ → σ → Poll σ × σ
  | visit true change next, contents => (next contents).breakOff (change contents)
  | poll, contents => (poll, contents)

def isAsked : Poll σ → σ → Bool
  | finished _, _ => false
  | fetch _, _ => true
  | visit _ change next, contents => (next contents).isAsked (change contents)

/-- The release that was published last; of several the one that comes last. -/
def newest? (releases : List Release) : Option Release :=
  releases.foldl (fun best release =>
    match best with
    | some best => if release.publishDate.before best.publishDate then some best else some release
    | none => some release) none

/-- Whether nothing was missed since the release that a marker stands for. -/
def isCaught (marker : Option ReleaseMarker) (releases : List Release) : Bool :=
  match marker with
  | some marker => releases.any marker.isOf
  | none => true

/-- Change the record of a source. The record is read in one step and written in another; only
polls of other sources come between, as the others wait. Where the record is to stay, the result is
`otherwise`. -/
def update (store : StatusStore σ) (id : Int) (goesOn : Bool)
    (change : SourceStatus → Option SourceStatus) (otherwise : Except StoreFailure Unit)
    (next : Except StoreFailure Unit → Poll σ) : Poll σ :=
  attempt goesOn (store.status id) fun
    | .error failure => next (.error failure)
    | .ok status =>
      match change status with
      | some changed => attempt true (store.upsert changed) next
      | none => next otherwise

def fail (store : StatusStore σ) (now : Timestamp) (id : Int) (minimum : Option Nat)
    (message : String) : Poll σ :=
  update store id false (SourceStatus.escalate? · now (minimum.getD 0)) (.error .crashed) fun _ =>
    finished (some (.failed message))

/-- Note a success and the newest of the releases, and end. A success that cannot be noted ends the
poll at once. -/
def succeed (store : StatusStore σ) (now : Timestamp) (id : Int) (releases : List Release)
    (fullyCaught : Bool) : Poll σ :=
  update store id false SourceStatus.recover? (.ok ()) fun
    | .error _ => finished (some (.synced releases fullyCaught))
    | .ok () =>
      match newest? releases with
      | some release =>
        update store id true (fun status =>
          some (status.checkpoint now (.ofRelease release) fullyCaught)) (.ok ()) fun _ =>
            finished (some (.synced releases fullyCaught))
      | none => finished (some (.synced releases fullyCaught))

/-- Compare releases with those of the last poll. A record that cannot be read holds no marker. -/
def compare (store : StatusStore σ) (now : Timestamp) (id : Int) (releases : List Release) :
    Poll σ :=
  attempt false (store.status id) fun
    | .ok status => succeed store now id releases (isCaught status.lastSyncMarker releases)
    | .error _ => succeed store now id releases (isCaught none releases)

/-- Go on with what came from the source. -/
def receive (store : StatusStore σ) (now : Timestamp) (source : Source) : FetchAnswer → Poll σ
  | .error failure => fail store now source.id failure.retryAfter failure.message
  | .ok document =>
    match FeedDocument.releases source document with
    | .error (.reported fault) => fail store now source.id none fault.message
    | .error .crashed => finished none
    | .ok releases => compare store now source.id releases

/-- The poll of a source. It is asked unless the store says that it is to be left alone. -/
def ofSource (store : StatusStore σ) (now : Timestamp) (source : Source) : Poll σ :=
  attempt false (store.isBlocked now source.id) fun
    | .ok true => finished (some .skipped)
    | _ => fetch (receive store now source)

end Poll

end Curator
