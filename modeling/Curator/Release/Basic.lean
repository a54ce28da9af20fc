import Curator.Release.UserRatings
import Curator.Time.InternetDate

/-! Releases that sources announce, and the marker that stands for one release. -/
namespace Curator

/-- One announced release. -/
structure Release where
  /-- The source's own name for the release. -/
  guid : Option (List Char) := none
  title : List Char
  /-- Size in bytes, 0 when it is not reported. -/
  size : UInt64 := 0
  publishDate : Timestamp
  sourceId : Int := 0
  source : List Char := []
  downloadUrl : List Char := []
  infoUrl : Option (List Char) := none
  /-- The show's number in an external catalogue. -/
  tvId : Option Int := none
  /-- How little the source is trusted. -/
  weight : Int := 0
  ratings : Option UserRatings := none
deriving DecidableEq, Repr

namespace Release

def ageDays (release : Release) (now : Timestamp) : Int :=
  (release.publishDate.elapsed now).tdiv (86400 * 1000000000)

/-- Hours since publication, counted in whole seconds. -/
def ageHours (release : Release) (now : Timestamp) : Binary64 :=
  (Binary64.ofInteger ((release.publishDate.elapsed now).tdiv 1000000000)).divide (.finite 3600)

/-- Date, title and size on one line. -/
def summary (release : Release) : List Char :=
  '[' :: InternetDate.renderSpaced release.publishDate ++ "] ".toList ++ release.title ++
    " [".toList ++ Nat.toDigits 10 release.size.toNat ++ [']']

/-- The votes as shown to people, a dash without ratings. -/
def renderVotes (release : Release) : String :=
  match release.ratings with
  | some ratings => ratings.renderVotes
  | none => "-"

end Release

/-- What is remembered of the newest release of a source. -/
structure ReleaseMarker where
  guid : Option (List Char)
  title : List Char
  publishDate : Timestamp
deriving DecidableEq, Repr

namespace ReleaseMarker

def ofRelease (release : Release) : ReleaseMarker :=
  { guid := release.guid, title := release.title, publishDate := release.publishDate }

/-- Whether the marker stands for a release: by name where both have one, else by title and date. -/
def isOf (marker : ReleaseMarker) (release : Release) : Bool :=
  match marker.guid, release.guid with
  | some remembered, some announced => remembered == announced
  | _, _ => marker.title == release.title && marker.publishDate == release.publishDate

end ReleaseMarker

end Curator
