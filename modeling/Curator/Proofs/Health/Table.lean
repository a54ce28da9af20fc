import Curator.Health.Table
import Curator.Proofs.Health.History
import Curator.Proofs.Text.Json
import Curator.Proofs.Time.Printed
import Mathlib.Data.List.ReduceOption

/-! A record is read back from its row exactly as it was written, as far as its years are plain. -/
namespace Curator

namespace ReleaseMarker

open Json

private def nameValue : Option (List Char) → Json
  | some name => .string (some name)
  | none => .null

private theorem readName?_nameValue (name : Option (List Char)) :
    readName? (nameValue name) = some name := by
  cases name <;> rfl

private theorem reads_renderName (name : Option (List Char)) :
    Reads 1 (renderName name) (nameValue name) := by
  cases name with
  | none => exact reads_null
  | some name => exact reads_renderString name

private theorem reads_render (marker : ReleaseMarker) :
    Reads 5 marker.render (.object
      [(some "guid".toList, nameValue marker.guid),
        (some "title".toList, .string (some marker.title)),
        (some "publish_date".toList,
          .string (some (InternetDate.render marker.publishDate)))]) := by
  have date := ReadsMembers.last (reads_renderString (InternetDate.render marker.publishDate))
    "publish_date".toList
  have title := ReadsMembers.cons ((reads_renderString marker.title).mono (by decide))
    "title".toList date
  have guid := ReadsMembers.cons ((reads_renderName marker.guid).mono (by decide))
    "guid".toList title
  have text : marker.render = '{' :: (renderString "guid".toList ++ ':' :: renderName marker.guid ++
      ',' :: (renderString "title".toList ++ ':' :: renderString marker.title ++
        ',' :: (renderString "publish_date".toList ++
          ':' :: renderString (InternetDate.render marker.publishDate) ++ ['}']))) := by
    simp only [render, renderMember, List.append_assoc, List.cons_append]
  rw [text]
  exact guid.object

/-- A marker is read back from its text, whatever characters its name and its title have. -/
theorem read?_render {marker : ReleaseMarker} (plain : marker.publishDate.HasPlainYear) :
    read? marker.render = some marker := by
  have long : 5 ≤ marker.render.length + 1 := by
    simp only [render, renderMember, renderString, List.length_append, List.length_cons]
    omega
  rw [read?, (reads_render marker).read? long]
  change ofValues? (nameValue marker.guid) (.string (some marker.title))
    (.string (some (InternetDate.render marker.publishDate))) = some marker
  rw [ofValues?, readName?_nameValue, InternetDate.readLeniently?_render plain]
  rfl

end ReleaseMarker

namespace SourceStatus

/-- The instants that a record holds, the date of its marker among them. -/
def instants (status : SourceStatus) : List Timestamp :=
  [status.initialFailure, status.mostRecentFailure, status.disabledUntil,
    status.lastContinuousSync, status.lastSyncMarker.map (·.publishDate)].reduceOption

/-- Whether every instant of a record has a plain year. -/
def HasPlainYears (status : SourceStatus) : Prop :=
  ∀ instant ∈ status.instants, instant.HasPlainYear

instance (status : SourceStatus) : Decidable status.HasPlainYears :=
  inferInstanceAs (Decidable (∀ instant ∈ status.instants, instant.HasPlainYear))

end SourceStatus

namespace StatusRow

theorem readTime?_writeTime {instant : Option Timestamp}
    (plain : ∀ found, instant = some found → found.HasPlainYear) :
    readTime? (writeTime instant) = instant := by
  cases instant with
  | none => rfl
  | some instant =>
    simp only [writeTime, readTime?, InternetDate.read?_renderNumeric (plain instant rfl)]
    rfl

theorem readMarker?_writeMarker {marker : Option ReleaseMarker}
    (plain : ∀ found, marker = some found → found.publishDate.HasPlainYear) :
    readMarker? (writeMarker marker) = marker := by
  cases marker with
  | none => rfl
  | some marker => exact ReleaseMarker.read?_render (plain marker rfl)

theorem readLevel_eq {level : Nat} (bounded : level ≤ highestLevel) :
    readLevel (.integer level) = level := by
  have small : (0 : Int) ≤ level ∧ (level : Int) ≤ 4294967295 := by
    simp only [highestLevel] at bounded
    omega
  rw [readLevel, if_pos small, Int.toNat_natCast, Nat.min_eq_left bounded]

theorem toStatus_ofStatus {status : SourceStatus} (bounded : status.level ≤ highestLevel)
    (plain : status.HasPlainYears) : (ofStatus status).toStatus = status := by
  have time : ∀ part ∈ [status.initialFailure, status.mostRecentFailure, status.disabledUntil,
      status.lastContinuousSync], readTime? (writeTime part) = part := by
    intro part member
    apply readTime?_writeTime
    rintro instant rfl
    apply plain instant
    rw [SourceStatus.instants, List.reduceOption_mem_iff]
    exact List.mem_append_left [_] member
  have marker : readMarker? (writeMarker status.lastSyncMarker) = status.lastSyncMarker := by
    apply readMarker?_writeMarker
    intro marker known
    apply plain
    rw [SourceStatus.instants, List.reduceOption_mem_iff, known]
    simp
  simp only [List.forall_mem_cons] at time
  obtain ⟨initial, recent, disabled, continuous, _⟩ := time
  simp only [toStatus, ofStatus, readLevel_eq bounded, initial, recent, disabled, continuous,
    marker]

theorem upsert_eq_insertRecord (row : StatusRow) (rows : List StatusRow) :
    row.upsert rows = insertRecord StatusRow.sourceId row rows := by
  induction rows with
  | nil => rfl
  | cons first rest ih =>
    unfold upsert insertRecord
    split
    · rfl
    · split
      · rename_i same
        cases row
        cases same
        rfl
      · rw [ih]

end StatusRow

namespace StatusStore

theorem shows_table (rows : List StatusRow) :
    table.Shows rows (rows.map StatusRow.toStatus) where
  get id := by
    rw [List.find?_map]
    rfl
  all := rfl

/-- The rows after a record is put in its place stand for the records with the same change. -/
theorem map_upsert_ofStatus {record : SourceStatus}
    (readBack : (StatusRow.ofStatus record).toStatus = record) (rows : List StatusRow) :
    ((StatusRow.ofStatus record).upsert rows).map StatusRow.toStatus =
      insertRecord SourceStatus.sourceId record (rows.map StatusRow.toStatus) := by
  have sameId : ∀ row : StatusRow, row.toStatus.sourceId = row.sourceId := fun _ => rfl
  rw [StatusRow.upsert_eq_insertRecord, map_insertRecord sameId, readBack]

end StatusStore

end Curator
