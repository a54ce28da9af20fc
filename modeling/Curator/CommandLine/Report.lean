import Curator.Disk.FileSet
import Curator.Health.Status
import Curator.Ranking.Ratings
import Curator.Release.DisplayedSize
import Curator.Settings

/-! Tables for the terminal, line by line. -/
namespace Curator.Report

/-- Cells with two blanks between them. -/
def row (cells : List String) : String :=
  "  ".intercalate cells

/-- A release with its age in days. -/
def releaseRow (now : Timestamp) (release : Release) : String :=
  row [Text.padLeft 10 (DisplayedSize.render release.size),
    Text.padLeft 4 (toString (release.ageDays now)) ++ "d", Text.padLeft 9 release.renderVotes,
    String.ofList release.title]

def releases (now : Timestamp) (releases : List Release) : List String :=
  row [Text.padLeft 10 "SIZE", Text.padLeft 5 "AGE", Text.padLeft 9 "VOTES", "TITLE"] ::
    (Ranking.sortByTier Release.ratings releases).map (releaseRow now) ++
    [s!"{releases.length} releases"]

/-- A path below something else. -/
def indented (path : Path) : String :=
  "    " ++ path.toString

def fileSet (fileSet : FileSet) : List String :=
  fileSet.primary.toString :: fileSet.companions.map indented

def fileSets (sets : List FileSet) (unclaimed : List Path) : List String :=
  sets.flatMap fileSet ++ [s!"{sets.length} file sets"] ++
    if unclaimed.isEmpty then []
    else s!"{unclaimed.length} unclaimed files:" :: unclaimed.map indented

/-- An instant, or a dash. -/
def instant (instant : Option Timestamp) : String :=
  match instant with
  | some instant => String.ofList (InternetDate.renderNumeric instant)
  | none => "-"

/-- The name of the first source with an id, or a question mark. -/
def sourceName (sources : List Source) (id : Int) : String :=
  match sources.find? (·.id == id) with
  | some source => String.ofList source.name
  | none => "?"

def statusRow (sources : List Source) (now : Timestamp) (status : SourceStatus) : String :=
  row [Text.padLeft 4 (toString status.sourceId),
    Text.padRight 20 (sourceName sources status.sourceId), Text.padLeft 5 (toString status.level),
    Text.padRight 8 (if status.isDisabledAt now then "blocked" else "ok"),
    Text.padRight 25 (instant status.disabledUntil), instant status.lastContinuousSync]

def statuses (sources : List Source) (now : Timestamp) (statuses : List SourceStatus) :
    List String :=
  row [Text.padLeft 4 "ID", Text.padRight 20 "NAME", Text.padLeft 5 "LEVEL",
      Text.padRight 8 "STATE", Text.padRight 25 "DISABLED UNTIL", "LAST SYNC"] ::
    statuses.map (statusRow sources now)

end Curator.Report
