import Curator.Ranking.Priority
import Curator.Proofs.StableSort

/-! The comparison of two decisions for one content item never contradicts itself, so that sorting
by it gives an ascending list in which decisions that compare equal keep their order. -/
namespace Curator

theorem transCmp_key {α β : Type} [Ord β] [Std.TransOrd β] (key : α → β) :
    Std.TransCmp fun left right => compare (key left) (key right) :=
  inferInstanceAs (Std.TransCmp (compareOn key))

theorem transCmp_then {α : Type} {first second : α → α → Ordering}
    (outer : Std.TransCmp first) (inner : Std.TransCmp second) :
    Std.TransCmp fun left right => (first left right).then (second left right) :=
  inferInstanceAs (Std.TransCmp (compareLex first second))

instance (profile : QualityProfile) : Std.TransCmp profile.compare := by
  unfold QualityProfile.compare
  exact transCmp_then (transCmp_key fun model : QualityModel => profile.rankKey model.quality)
    (transCmp_key fun model : QualityModel => model.revision.toNat)

namespace Ranking

variable (profile : QualityProfile) (now : Timestamp)

private theorem transCmp_quality :
    Std.TransCmp fun left right : DownloadDecision =>
      profile.compare right.quality left.quality where
  eq_swap := Std.OrientedCmp.eq_swap
  isLE_trans first second := Std.TransCmp.isLE_trans second first

instance : Std.TransCmp (compareDecisions profile now) := by
  unfold compareDecisions
  exact transCmp_then (transCmp_quality profile) <|
    transCmp_then (transCmp_key DownloadDecision.firstEpisode) <|
    transCmp_then (transCmp_key fun decision : DownloadDecision => decision.release.weight) <|
    transCmp_then (transCmp_key sizePerEpisode)
      (transCmp_key fun decision : DownloadDecision => decision.release.ageDays now)

theorem sortDecisions_perm (decisions : List DownloadDecision) :
    (sortDecisions profile now decisions).Perm decisions :=
  List.mergeSort_perm decisions _

theorem sortDecisions_ascending (decisions : List DownloadDecision) :
    (sortDecisions profile now decisions).Pairwise fun better worse =>
      compareDecisions profile now better worse ≠ .gt :=
  pairwise_sorted (compareDecisions profile now) decisions

/-- Decisions that compare equal to one decision keep their order. -/
theorem sortDecisions_stable (decisions : List DownloadDecision) (decision : DownloadDecision) :
    (sortDecisions profile now decisions).filter
        (fun other => compareDecisions profile now decision other == .eq) =
      decisions.filter fun other => compareDecisions profile now decision other == .eq := by
  apply filter_sorted (compareDecisions profile now)
  intro a b first second
  rw [beq_iff_eq] at first second
  have before : compareDecisions profile now a decision = .eq := Std.OrientedCmp.eq_symm first
  exact Std.TransCmp.eq_trans before second

end Ranking
end Curator
