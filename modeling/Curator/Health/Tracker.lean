import Curator.Health.Store

/-! Keeping the records of the sources up to date, and answering from them, over any store. -/
namespace Curator.StatusStore

variable {σ : Type}

/-- The record of a source, a fresh one when the store has none. -/
def status (store : StatusStore σ) (id : Int) : StoreAction σ SourceStatus := do
  return (← store.get id).getD { sourceId := id }

/-- Whether a source is not to be polled. One whose record cannot be read may be. -/
def isBlocked (store : StatusStore σ) (now : Timestamp) (id : Int) : StoreAction σ Bool :=
  tryCatch (return (← store.status id).isDisabledAt now) fun
    | .reported _ => return false
    | .crashed => throw .crashed

/-- Every record of a source that is not to be polled. -/
def blockedSources (store : StatusStore σ) (now : Timestamp) :
    StoreAction σ (List SourceStatus) := do
  return (← store.all).filter (·.isDisabledAt now)

/-- Replace the record of a source. Where it is to stay, the call ends with the result
`otherwise`. -/
def update (store : StatusStore σ) (id : Int) (change : SourceStatus → Option SourceStatus)
    (otherwise : Except StoreFailure Unit) : StoreAction σ Unit := do
  match change (← store.status id) with
  | some status => store.upsert status
  | none => liftExcept otherwise

def recordSuccess (store : StatusStore σ) (id : Int) : StoreAction σ Unit :=
  store.update id SourceStatus.recover? (.ok ())

/-- Note that a source failed and is to be left alone for `minimum` nanoseconds at least. -/
def recordFailure (store : StatusStore σ) (now : Timestamp) (id : Int) (minimum : Option Nat) :
    StoreAction σ Unit :=
  store.update id (SourceStatus.escalate? · now (minimum.getD 0)) (.error .crashed)

/-- Note the newest release of a source, and whether nothing was missed since the last one. -/
def recordCheckpoint (store : StatusStore σ) (now : Timestamp) (id : Int) (marker : ReleaseMarker)
    (fullyCaught : Bool) : StoreAction σ Unit :=
  store.update id (fun status => some (status.checkpoint now marker fullyCaught)) (.ok ())

end Curator.StatusStore
