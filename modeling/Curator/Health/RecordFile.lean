import Curator.Health.Table

/-! A file with the table of the records. The file notes a version; whenever it is opened, one of an
older version is brought up to date, and the rows that it has are kept. -/
namespace Curator

/-- What a file holds: its version, and the rows of the table, when it has one. -/
structure RecordFile where
  version : Int := 0
  rows : Option (List StatusRow) := none
deriving DecidableEq, Repr

namespace RecordFile

def newestVersion : Int := 1

def tableName : String := "source_status"

/-- The file with the table, which is created where there is none. -/
def withTable (file : RecordFile) : RecordFile :=
  { file with rows := some (file.rows.getD []) }

def opened (file : RecordFile) : RecordFile :=
  if file.version < newestVersion then { file.withTable with version := newestVersion } else file

def missingTable : StoreFailure :=
  .reported (.storage s!"no such table: {tableName}")

def onTable {α : Type} (action : StoreAction (List StatusRow) α) : StoreAction RecordFile α := do
  let file ← getThe RecordFile
  match file.rows with
  | none => throw missingTable
  | some rows =>
    let (outcome, rows) := action.run.run rows
    set { file with rows := some rows }
    liftExcept outcome

end RecordFile

def StatusStore.file : StatusStore RecordFile where
  get id := RecordFile.onTable (table.get id)
  upsert status := RecordFile.onTable (table.upsert status)
  all := RecordFile.onTable table.all

end Curator
