import Curator.Fault
import Curator.Health.Status

/-! Where the records of the sources are kept. A store is known by its three calls alone. -/
namespace Curator

/-- Why a call of a store failed. -/
abbrev StoreFailure := Failure Fault

/-- What a call does with the contents of a store. -/
abbrev StoreAction (σ α : Type) := ExceptT StoreFailure (StateM σ) α

/-- A place for records, with contents of type `σ`. -/
structure StatusStore (σ : Type) where
  /-- The record of a source, when there is one. -/
  get : Int → StoreAction σ (Option SourceStatus)
  /-- Put a record in the place of the source's earlier one. -/
  upsert : SourceStatus → StoreAction σ Unit
  /-- Every record, by increasing source id. -/
  all : StoreAction σ (List SourceStatus)

/-- The records with one of them replaced, in the order of the source ids. -/
def insertRecord {ρ : Type} (id : ρ → Int) (record : ρ) : List ρ → List ρ
  | [] => [record]
  | first :: rest =>
    if id record < id first then record :: first :: rest
    else if id record = id first then record :: rest
    else first :: insertRecord id record rest

theorem find?_insertRecord {ρ : Type} (id : ρ → Int) (record : ρ) (records : List ρ)
    (wanted : Int) :
    (insertRecord id record records).find? (id · == wanted) =
      if id record = wanted then some record
      else records.find? (id · == wanted) := by
  induction records with
  | nil => simp [insertRecord, List.find?_cons]; split <;> simp_all
  | cons first rest ih =>
    unfold insertRecord
    split
    · simp [List.find?_cons]; split <;> simp_all
    · split
      · by_cases here : id record = wanted <;> simp_all
      · simp only [List.find?_cons, ih]; split <;> simp_all

namespace StatusStore

/-- Records kept as a list by increasing source id. -/
def memory : StatusStore (List SourceStatus) where
  get id := return (← getThe (List SourceStatus)).find? (·.sourceId == id)
  upsert status := modify (insertRecord SourceStatus.sourceId status)
  all := getThe (List SourceStatus)

inductive Call where
  | get
  | upsert
  | all
deriving DecidableEq, Repr

/-- A store of which some calls fail and then change nothing. -/
def faulty {σ : Type} (store : StatusStore σ) (failure : Call → Option StoreFailure) :
    StatusStore σ where
  get id := match failure .get with
    | some reason => throw reason
    | none => store.get id
  upsert status := match failure .upsert with
    | some reason => throw reason
    | none => store.upsert status
  all := match failure .all with
    | some reason => throw reason
    | none => store.all

end StatusStore

end Curator
