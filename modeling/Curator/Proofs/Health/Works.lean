import Curator.Proofs.Health.RecordFile
import Mathlib.Data.List.Sort

/-! Stores whose calls succeed. What is put into such a store is found in it again, though perhaps
not in full: a store may be unable to hold some instants. -/
namespace Curator

abbrev recordOf? (records : List SourceStatus) (id : Int) : Option SourceStatus :=
  records.find? (·.sourceId == id)

theorem recordOf_eq_getD (records : List SourceStatus) (id : Int) :
    recordOf records id = (recordOf? records id).getD { sourceId := id } := rfl

theorem sourceId_of_recordOf? {records : List SourceStatus} {id : Int} {record : SourceStatus}
    (found : recordOf? records id = some record) : record.sourceId = id := by
  simpa using List.find?_some found

theorem recordOf?_eq_some_iff {records : List SourceStatus} (ordered : Ordered records)
    {record : SourceStatus} {id : Int} :
    recordOf? records id = some record ↔ record ∈ records ∧ record.sourceId = id :=
  find?_eq_some_iff ordered id

instance : Std.Irrefl fun left right : SourceStatus => left.sourceId < right.sourceId where
  irrefl record := Int.lt_irrefl record.sourceId

instance : Std.Antisymm fun left right : SourceStatus => left.sourceId < right.sourceId where
  antisymm _ _ below above := absurd above (Int.not_lt.mpr (Int.le_of_lt below))

/-- Records by increasing source id are known by what they have for each source. -/
theorem Ordered.ext {left right : List SourceStatus} (leftOrdered : Ordered left)
    (rightOrdered : Ordered right) (same : ∀ id, recordOf? left id = recordOf? right id) :
    left = right := by
  apply List.Pairwise.eq_of_mem_iff leftOrdered rightOrdered
  intro record
  have found := same record.sourceId
  constructor
  · intro member
    rw [(recordOf?_eq_some_iff leftOrdered).mpr ⟨member, rfl⟩] at found
    exact ((recordOf?_eq_some_iff rightOrdered).mp found.symm).1
  · intro member
    rw [(recordOf?_eq_some_iff rightOrdered).mpr ⟨member, rfl⟩] at found
    exact ((recordOf?_eq_some_iff leftOrdered).mp found).1

def recordsWith (written : Option SourceStatus) (records : List SourceStatus) : List SourceStatus :=
  match written with
  | some record => insertRecord SourceStatus.sourceId record records
  | none => records

theorem Ordered.recordsWith {records : List SourceStatus} (ordered : Ordered records)
    (written : Option SourceStatus) : Ordered (recordsWith written records) := by
  cases written with
  | none => exact ordered
  | some record => exact ordered_insertRecord ordered record

theorem recordOf?_recordsWith_own {written : Option SourceStatus} {id : Int}
    (own : ∀ record ∈ written, record.sourceId = id) (records : List SourceStatus) :
    recordOf? (recordsWith written records) id = (written <|> recordOf? records id) := by
  cases written with
  | none => rfl
  | some record =>
    rw [recordsWith, recordOf?, find?_insertRecord, if_pos (own record rfl)]
    rfl

theorem recordOf?_recordsWith_other {written : Option SourceStatus} {id : Int}
    (other : ∀ record ∈ written, record.sourceId ≠ id) (records : List SourceStatus) :
    recordOf? (recordsWith written records) id = recordOf? records id := by
  cases written with
  | none => rfl
  | some record => rw [recordsWith, recordOf?, find?_insertRecord, if_neg (other record rfl)]

namespace StatusStore

variable {σ : Type} {store : StatusStore σ} {contents : σ} {records : List SourceStatus}

/-- A store whose calls succeed, and in which a record is found again as `readBack` has it. -/
structure Works (store : StatusStore σ) (readBack : SourceStatus → SourceStatus) : Prop where
  sourceId_readBack : ∀ record, (readBack record).sourceId = record.sourceId
  upsert : ∀ contents records record, store.Shows contents records →
    ∃ left, (store.upsert record).run.run contents = (.ok (), left) ∧
      store.Shows left (insertRecord SourceStatus.sourceId (readBack record) records)

theorem works_memory : memory.Works id where
  sourceId_readBack _ := rfl
  upsert contents records record shows := keeps_memory contents records record shows trivial

theorem works_file : file.Works fun record => (StatusRow.ofStatus record).toStatus where
  sourceId_readBack _ := rfl
  upsert contents records record shows := by
    obtain ⟨rows, found, rfl⟩ := RecordFile.shows_iff_holds.mp shows
    refine ⟨_, RecordFile.run_onTable found (table.upsert record),
      RecordFile.shows_iff_holds.mpr ⟨_, rfl, ?_⟩⟩
    have sameId : ∀ row : StatusRow, row.toStatus.sourceId = row.sourceId := fun _ => rfl
    change ((StatusRow.ofStatus record).upsert rows).map StatusRow.toStatus = _
    rw [StatusRow.upsert_eq_insertRecord, map_insertRecord sameId]

theorem Shows.unique {others : List SourceStatus} (shows : store.Shows contents records)
    (showsOthers : store.Shows contents others) : records = others :=
  Except.ok.inj (congrArg Prod.fst (shows.all.symm.trans showsOthers.all))

end StatusStore

end Curator
