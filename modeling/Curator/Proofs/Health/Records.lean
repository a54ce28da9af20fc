import Curator.Health.Store

/-! The records of several sources: one for each source, by increasing source id. -/
namespace Curator

def Ordered (records : List SourceStatus) : Prop :=
  records.Pairwise fun left right => left.sourceId < right.sourceId

theorem mem_insertRecord {records : List SourceStatus} (ordered : Ordered records)
    {record other : SourceStatus} :
    other ∈ insertRecord SourceStatus.sourceId record records ↔
      other = record ∨ other ∈ records ∧ other.sourceId ≠ record.sourceId := by
  induction records with
  | nil => simp [insertRecord]
  | cons first rest ih =>
    obtain ⟨below, restOrdered⟩ := List.pairwise_cons.mp ordered
    -- The record goes before the first one with a greater id, or replaces the one with its own.
    unfold insertRecord
    split
    · rename_i lower
      have different : ∀ member ∈ first :: rest, member.sourceId ≠ record.sourceId := by
        intro member present
        rcases List.mem_cons.mp present with rfl | later
        · omega
        · have above := below member later
          omega
      constructor
      · intro present
        rcases List.mem_cons.mp present with same | old
        · exact .inl same
        · exact .inr ⟨old, different other old⟩
      · rintro (same | ⟨old, _⟩)
        · exact List.mem_cons.mpr (.inl same)
        · exact List.mem_cons_of_mem _ old
    · rename_i notLower
      split
      · rename_i same
        have different : ∀ member ∈ rest, member.sourceId ≠ record.sourceId := by
          intro member later
          have above := below member later
          omega
        constructor
        · intro present
          rcases List.mem_cons.mp present with new | old
          · exact .inl new
          · exact .inr ⟨List.mem_cons_of_mem _ old, different other old⟩
        · rintro (new | ⟨old, distinct⟩)
          · exact List.mem_cons.mpr (.inl new)
          · rcases List.mem_cons.mp old with rfl | later
            · exact absurd same.symm distinct
            · exact List.mem_cons_of_mem _ later
      · rename_i notSame
        rw [List.mem_cons, ih restOrdered, List.mem_cons]
        constructor
        · rintro (rfl | new | ⟨old, distinct⟩)
          · exact .inr ⟨.inl rfl, fun same => notSame same.symm⟩
          · exact .inl new
          · exact .inr ⟨.inr old, distinct⟩
        · rintro (new | ⟨rfl | old, distinct⟩)
          · exact .inr (.inl new)
          · exact .inl rfl
          · exact .inr (.inr ⟨old, distinct⟩)

theorem ordered_insertRecord {records : List SourceStatus} (ordered : Ordered records)
    (record : SourceStatus) : Ordered (insertRecord SourceStatus.sourceId record records) := by
  induction records with
  | nil => exact List.pairwise_singleton _ _
  | cons first rest ih =>
    obtain ⟨below, restOrdered⟩ := List.pairwise_cons.mp ordered
    unfold insertRecord
    split
    · rename_i lower
      refine List.pairwise_cons.mpr ⟨?_, ordered⟩
      intro member present
      rcases List.mem_cons.mp present with rfl | later
      · exact lower
      · exact Int.lt_trans lower (below member later)
    · rename_i notLower
      split
      · rename_i same
        exact List.pairwise_cons.mpr ⟨fun member later => same ▸ below member later, restOrdered⟩
      · rename_i notSame
        refine List.pairwise_cons.mpr ⟨?_, ih restOrdered⟩
        intro member present
        rcases (mem_insertRecord restOrdered).mp present with rfl | ⟨old, _⟩
        · omega
        · exact below member old

/-- A change that keeps the ids may be made before or after a record is put in its place. -/
theorem map_insertRecord {ρ τ : Type} {id : ρ → Int} {idAfter : τ → Int} {change : ρ → τ}
    (same : ∀ record, idAfter (change record) = id record) (record : ρ) (records : List ρ) :
    (insertRecord id record records).map change =
      insertRecord idAfter (change record) (records.map change) := by
  induction records with
  | nil => rfl
  | cons first rest ih =>
    simp only [insertRecord, List.map_cons, same]
    split
    · rfl
    · split
      · rfl
      · rw [List.map_cons, ih]

/-- In records by increasing source id, a look-up by id finds exactly the record with that id. -/
theorem find?_eq_some_iff {records : List SourceStatus} (ordered : Ordered records)
    {record : SourceStatus} (id : Int) :
    records.find? (·.sourceId == id) = some record ↔ record ∈ records ∧ record.sourceId = id := by
  constructor
  · intro found
    exact ⟨List.mem_of_find?_eq_some found, by simpa using List.find?_some found⟩
  · rintro ⟨member, rfl⟩
    induction records with
    | nil => simp at member
    | cons first rest ih =>
      obtain ⟨below, restOrdered⟩ := List.pairwise_cons.mp ordered
      rcases List.mem_cons.mp member with rfl | later
      · simp
      · have different : first.sourceId ≠ record.sourceId := Int.ne_of_lt (below record later)
        simpa [List.find?_cons, different] using ih restOrdered later

/-- The record of a source among others, a fresh one when there is none. -/
def recordOf (records : List SourceStatus) (id : Int) : SourceStatus :=
  (records.find? (·.sourceId == id)).getD { sourceId := id }

theorem sourceId_recordOf (records : List SourceStatus) (id : Int) :
    (recordOf records id).sourceId = id := by
  unfold recordOf
  cases found : records.find? (·.sourceId == id) with
  | none => rfl
  | some record => simpa using List.find?_some found

theorem recordOf_mem (records : List SourceStatus) (id : Int) :
    recordOf records id ∈ records ∨ recordOf records id = { sourceId := id } := by
  unfold recordOf
  cases found : records.find? (·.sourceId == id) with
  | none => exact .inr rfl
  | some record => exact .inl (List.mem_of_find?_eq_some found)

end Curator
