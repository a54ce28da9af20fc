import Curator.Proofs.Health.Works

/-! Stores whose calls may fail at any point. A call that fails may have done its work or not; one
that succeeds in reading tells what is stored, and nothing is stored for a source but what was put
for it. -/
namespace Curator

/-- Since when nothing was missed of a source, by what is stored for it. -/
def stamp? (stored : Option SourceStatus) : Option Timestamp :=
  stored.bind SourceStatus.lastContinuousSync

namespace StatusStore

variable {σ : Type}

/-- A store that has `stored` for the sources and whose calls may fail. -/
structure Unreliable (store : StatusStore σ) (stored : σ → Int → Option SourceStatus) : Prop where
  own : ∀ contents id record, stored contents id = some record → record.sourceId = id
  get_keeps : ∀ contents id, stored ((store.get id).run.run contents).2 = stored contents
  get_tells : ∀ contents id found, ((store.get id).run.run contents).1 = .ok found →
    found = stored contents id
  upsert_other : ∀ contents record id, id ≠ record.sourceId →
    stored ((store.upsert record).run.run contents).2 id = stored contents id
  /-- A record that is put may be lost, and the instant of the last sync without a gap may be lost
  from it. -/
  upsert_own : ∀ contents record,
    stored ((store.upsert record).run.run contents).2 record.sourceId =
        stored contents record.sourceId ∨
      ∀ instant,
        stamp? (stored ((store.upsert record).run.run contents).2 record.sourceId) =
          some instant → record.lastContinuousSync = some instant

theorem unreliable_memory : memory.Unreliable recordOf? where
  own _ _ _ := sourceId_of_recordOf?
  get_keeps _ _ := rfl
  get_tells _ _ _ told := (Except.ok.inj told).symm
  upsert_other contents record id other := by
    change recordOf? (insertRecord SourceStatus.sourceId record contents) id = _
    rw [recordOf?, find?_insertRecord, if_neg (Ne.symm other)]
  upsert_own contents record := by
    right
    intro instant stamped
    change stamp? (recordOf? (insertRecord SourceStatus.sourceId record contents)
      record.sourceId) = _ at stamped
    rw [recordOf?, find?_insertRecord, if_pos rfl] at stamped
    exact stamped

/-- Carry out an action and count it, unless the call with its number fails. -/
def counted {α : Type} (failure : Nat → Option StoreFailure) (action : StoreAction σ α) :
    StoreAction (σ × Nat) α := .mk fun contents =>
  match failure contents.2 with
  | some reason => (.error reason, contents.1, contents.2 + 1)
  | none =>
    let (answer, left) := action.run.run contents.1
    (answer, left, contents.2 + 1)

/-- A store of which the calls with some numbers fail, and then change nothing. Its contents count
the calls. -/
def failingAt (store : StatusStore σ) (failure : Nat → Option StoreFailure) :
    StatusStore (σ × Nat) where
  get id := counted failure (store.get id)
  upsert record := counted failure (store.upsert record)
  all := counted failure store.all

variable {store : StatusStore σ} {stored : σ → Int → Option SourceStatus}

theorem run_counted {α : Type} (failure : Nat → Option StoreFailure) (action : StoreAction σ α)
    (contents : σ × Nat) :
    (∃ reason, (counted failure action).run.run contents =
        (.error reason, contents.1, contents.2 + 1)) ∨
      (counted failure action).run.run contents =
        ((action.run.run contents.1).1, (action.run.run contents.1).2, contents.2 + 1) := by
  have runs : (counted failure action).run.run contents =
      match failure contents.2 with
      | some reason => (.error reason, contents.1, contents.2 + 1)
      | none =>
        ((action.run.run contents.1).1, (action.run.run contents.1).2, contents.2 + 1) := rfl
  rw [runs]
  cases failure contents.2 with
  | some reason => exact .inl ⟨reason, rfl⟩
  | none => exact .inr rfl

theorem Unreliable.failingAt (unreliable : store.Unreliable stored)
    (failure : Nat → Option StoreFailure) :
    (store.failingAt failure).Unreliable fun contents => stored contents.1 where
  own contents := unreliable.own contents.1
  get_keeps contents id := by
    rcases run_counted failure (store.get id) contents with ⟨reason, failed⟩ | done
    · rw [StatusStore.failingAt, failed]
    · rw [StatusStore.failingAt, done, unreliable.get_keeps]
  get_tells contents id found told := by
    rcases run_counted failure (store.get id) contents with ⟨reason, failed⟩ | done
    · rw [StatusStore.failingAt, failed] at told
      cases told
    · rw [StatusStore.failingAt, done] at told
      exact unreliable.get_tells contents.1 id found told
  upsert_other contents record id other := by
    rcases run_counted failure (store.upsert record) contents with ⟨reason, failed⟩ | done
    · rw [StatusStore.failingAt, failed]
    · rw [StatusStore.failingAt, done, unreliable.upsert_other contents.1 record id other]
  upsert_own contents record := by
    rcases run_counted failure (store.upsert record) contents with ⟨reason, failed⟩ | done
    · rw [StatusStore.failingAt, failed]
      exact .inl rfl
    · rw [StatusStore.failingAt, done]
      exact unreliable.upsert_own contents.1 record

namespace Unreliable

theorem status_keeps (unreliable : store.Unreliable stored) (contents : σ) (id : Int) :
    stored ((store.status id).run.run contents).2 = stored contents := by
  rw [← unreliable.get_keeps contents id, status, run_bind]
  rcases (store.get id).run.run contents with ⟨reason | found, left⟩ <;> rfl

theorem status_tells (unreliable : store.Unreliable stored) {contents : σ} {id : Int}
    {status : SourceStatus} (told : ((store.status id).run.run contents).1 = .ok status) :
    status = (stored contents id).getD { sourceId := id } := by
  have tells := unreliable.get_tells contents id
  rw [StatusStore.status, run_bind] at told
  rcases read : (store.get id).run.run contents with ⟨reason | found, left⟩
  · rw [read] at told
    cases told
  · rw [read] at told tells
    rw [← tells found rfl]
    exact (Except.ok.inj told).symm

theorem isBlocked_keeps (unreliable : store.Unreliable stored) (contents : σ) (now : Timestamp)
    (id : Int) : stored ((store.isBlocked now id).run.run contents).2 = stored contents := by
  rw [← unreliable.status_keeps contents id]
  simp only [isBlocked, tryCatch, tryCatchThe, MonadExceptOf.tryCatch]
  change stored (StateT.run (ExceptT.run (do
    return (← store.status id).isDisabledAt now) >>= _) contents).2 = _
  rw [StateT.run_bind, run_bind]
  rcases (store.status id).run.run contents with ⟨(fault | _) | found, left⟩ <;> rfl

end Unreliable
end StatusStore
end Curator
