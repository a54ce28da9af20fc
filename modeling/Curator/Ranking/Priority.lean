import Curator.Content
import Curator.Release.Basic
import Std.Data.HashMap

/-! The order in which releases are to be downloaded. Releases of one content item stand together,
best first; the items keep the order in which they first appear, and releases of no item come last.
-/
namespace Curator

/-- A release with the content item it belongs to. -/
structure DownloadDecision where
  release : Release
  content : Option Content := none
  episodes : List Episode := []
  quality : QualityModel := {}
deriving DecidableEq, Repr

namespace DownloadDecision

/-- The lowest episode number, 0 without episodes. -/
def firstEpisode (decision : DownloadDecision) : Nat :=
  ((decision.episodes.map Episode.number).min?).getD 0

def contentId? (decision : DownloadDecision) : Option Int :=
  decision.content.map Content.id

end DownloadDecision

namespace Ranking

/-- Sizes are compared in steps of this many bytes. -/
def sizeStep : Nat := 209715200

def greatestSize : Nat := 18446744073709551615

/-- The multiple of the step nearest to a size, a half going up. -/
def sizeBucket (size : UInt64) : Nat :=
  min (size.toNat + sizeStep / 2) greatestSize / sizeStep * sizeStep

/-- The rounded size shared out among the episodes. -/
def sizePerEpisode (decision : DownloadDecision) : Nat :=
  sizeBucket decision.release.size / max decision.episodes.length 1

/-- Order of two decisions for one content item, lesser being better: the higher quality, the lower
episode, the lower weight, the smaller size, the later date. -/
def compareDecisions (profile : QualityProfile) (now : Timestamp)
    (left right : DownloadDecision) : Ordering :=
  (profile.compare right.quality left.quality).then <|
    (compare left.firstEpisode right.firstEpisode).then <|
      (compare left.release.weight right.release.weight).then <|
        (compare (sizePerEpisode left) (sizePerEpisode right)).then <|
          compare (left.release.ageDays now) (right.release.ageDays now)

/-- The decisions sorted, best first; equal ones keep their order. -/
def sortDecisions (profile : QualityProfile) (now : Timestamp)
    (decisions : List DownloadDecision) : List DownloadDecision :=
  decisions.mergeSort fun left right => compareDecisions profile now left right != .gt

/-- Decisions put into groups as they come, one group for each content item. -/
structure Grouping where
  /-- The groups, in the order in which their items first appeared. -/
  groups : Array (Array DownloadDecision) := #[]
  /-- The place of the group of an item. -/
  places : Std.HashMap Int Nat := {}
  /-- The decisions for no item. -/
  unresolved : Array DownloadDecision := #[]

/-- Put a decision behind those of its item, into a new group when it is the first. -/
def Grouping.add (grouping : Grouping) (decision : DownloadDecision) : Grouping :=
  match decision.contentId? with
  | none => { grouping with unresolved := grouping.unresolved.push decision }
  | some id =>
    match grouping.places[id]? with
    | some place =>
      { grouping with groups := grouping.groups.modify place (·.push decision) }
    | none =>
      { grouping with
        groups := grouping.groups.push #[decision]
        places := grouping.places.insert id grouping.groups.size }

def Grouping.ofList (decisions : List DownloadDecision) : Grouping :=
  decisions.foldl add {}

/-- The profile of the first decision, which stands for the whole group. -/
def groupProfile (group : List DownloadDecision) : QualityProfile :=
  ((group.head?.bind DownloadDecision.content).map Content.profile).getD {}

def sortGroup (now : Timestamp) (group : List DownloadDecision) : List DownloadDecision :=
  sortDecisions (groupProfile group) now group

/-- All decisions in the order in which they are to be downloaded. -/
def prioritize (now : Timestamp) (decisions : List DownloadDecision) : List DownloadDecision :=
  let grouping := Grouping.ofList decisions
  grouping.groups.toList.flatMap (fun group => sortGroup now group.toList) ++
    grouping.unresolved.toList

end Ranking

end Curator
