import Curator.Proofs.Ranking.Groups

/-! What is in order stays in order. Groups that stand one behind the other are found again when
they are grouped, and a sorted group is sorted already, as long as every decision for a content item
knows the same profile of it. -/
namespace Curator.Ranking

/-- Decisions for one content item have the same profile of it. -/
def AgreeOnProfiles (decisions : List DownloadDecision) : Prop :=
  ∀ decision ∈ decisions, ∀ other ∈ decisions, decision.contentId? = other.contentId? →
    decision.content.map Content.profile = other.content.map Content.profile

instance (decisions : List DownloadDecision) : Decidable (AgreeOnProfiles decisions) :=
  inferInstanceAs (Decidable (∀ decision ∈ decisions, ∀ other ∈ decisions, _))

variable {id : Int} {ids : List Int} {group : Int → List DownloadDecision}
  {unresolved decisions others : List DownloadDecision} {now : Timestamp}

/-- Groups that stand for one content item each, and decisions for none. -/
structure Arranged (ids : List Int) (group : Int → List DownloadDecision)
    (unresolved : List DownloadDecision) : Prop where
  distinct : ids.Nodup
  nonempty : ∀ id ∈ ids, group id ≠ []
  resolved : ∀ id ∈ ids, ∀ decision ∈ group id, decision.contentId? = some id
  unresolved : ∀ decision ∈ unresolved, decision.contentId? = none

namespace Arranged

theorem tail (arranged : Arranged (id :: ids) group unresolved) :
    Arranged ids group unresolved where
  distinct := (List.nodup_cons.mp arranged.distinct).2
  nonempty other member := arranged.nonempty other (List.mem_cons_of_mem _ member)
  resolved other member := arranged.resolved other (List.mem_cons_of_mem _ member)
  unresolved := arranged.unresolved

theorem mem_ids (arranged : Arranged ids group unresolved) {decision : DownloadDecision}
    (member : decision ∈ ids.flatMap group ++ unresolved) (own : decision.contentId? = some id) :
    id ∈ ids := by
  rcases List.mem_append.mp member with grouped | none_
  · obtain ⟨other, known, here⟩ := List.mem_flatMap.mp grouped
    cases own.symm.trans (arranged.resolved other known decision here)
    exact known
  · cases own.symm.trans (arranged.unresolved decision none_)

theorem contentIds_eq (arranged : Arranged ids group unresolved) :
    contentIds (ids.flatMap group ++ unresolved) = ids := by
  induction ids with
  | nil =>
    have none_ : unresolved.filterMap DownloadDecision.contentId? = [] :=
      List.filterMap_eq_nil_iff.mpr arranged.unresolved
    rw [List.flatMap_nil, List.nil_append, contentIds, none_]
    rfl
  | cons id ids ih =>
    have absent : id ∉ ids := (List.nodup_cons.mp arranged.distinct).1
    obtain ⟨first, more, here⟩ :=
      List.exists_cons_of_ne_nil (arranged.nonempty id List.mem_cons_self)
    have own := arranged.resolved id List.mem_cons_self
    rw [here] at own
    have same : (more.filterMap DownloadDecision.contentId?).filter (fun other => !other == id) =
        [] := by
      rw [List.filter_eq_nil_iff]
      intro other found
      obtain ⟨decision, member, found⟩ := List.mem_filterMap.mp found
      cases found.symm.trans (own decision (List.mem_cons_of_mem _ member))
      simp
    have later : ((ids.flatMap group ++ unresolved).filterMap DownloadDecision.contentId?).filter
        (fun other => !other == id) =
          (ids.flatMap group ++ unresolved).filterMap DownloadDecision.contentId? := by
      rw [List.filter_eq_self]
      intro other found
      obtain ⟨decision, member, found⟩ := List.mem_filterMap.mp found
      have different : other ≠ id := by
        rintro rfl
        exact absent (arranged.tail.mem_ids member found)
      simpa using different
    rw [List.flatMap_cons, here, contentIds, List.cons_append, List.cons_append,
      List.filterMap_cons_some (own first List.mem_cons_self), List.eraseDups_cons,
      List.append_assoc, List.filterMap_append, List.filter_append, same, later, List.nil_append]
    exact congrArg (id :: ·) (ih arranged.tail)

theorem decisionsFor_eq (arranged : Arranged ids group unresolved) (known : id ∈ ids) :
    decisionsFor id (ids.flatMap group ++ unresolved) = group id := by
  induction ids with
  | nil => cases known
  | cons first ids ih =>
    have split : decisionsFor id ((first :: ids).flatMap group ++ unresolved) =
        decisionsFor id (group first) ++ decisionsFor id (ids.flatMap group ++ unresolved) := by
      rw [List.flatMap_cons, List.append_assoc, decisionsFor, List.filter_append]
      rfl
    have own := arranged.resolved first List.mem_cons_self
    have absent : first ∉ ids := (List.nodup_cons.mp arranged.distinct).1
    rw [split]
    rcases List.mem_cons.mp known with rfl | later
    · have whole : decisionsFor id (group id) = group id := by
        rw [decisionsFor, List.filter_eq_self]
        exact fun decision member => beq_iff_eq.mpr (own decision member)
      have none_ : decisionsFor id (ids.flatMap group ++ unresolved) = [] := by
        apply decisionsFor_eq_nil
        rwa [arranged.tail.contentIds_eq]
      rw [whole, none_, List.append_nil]
    · have none_ : decisionsFor id (group first) = [] := by
        rw [decisionsFor, List.filter_eq_nil_iff]
        intro decision member same
        cases (own decision member).symm.trans (beq_iff_eq.mp same)
        exact absent later
      rw [none_, List.nil_append]
      exact ih arranged.tail later

theorem unresolved_eq (arranged : Arranged ids group unresolved) :
    (ids.flatMap group ++ unresolved).filter (fun decision => decision.contentId?.isNone) =
      unresolved := by
  have grouped : (ids.flatMap group).filter (fun decision => decision.contentId?.isNone) = [] := by
    rw [List.filter_eq_nil_iff]
    intro decision member
    obtain ⟨id, known, here⟩ := List.mem_flatMap.mp member
    simp [arranged.resolved id known decision here]
  have rest : unresolved.filter (fun decision => decision.contentId?.isNone) = unresolved := by
    rw [List.filter_eq_self]
    intro decision member
    simp [arranged.unresolved decision member]
  rw [List.filter_append, grouped, rest, List.nil_append]

end Arranged

theorem arranged_prioritize (now : Timestamp) (decisions : List DownloadDecision) :
    Arranged (contentIds decisions) (fun id => sortGroup now (decisionsFor id decisions))
      (decisions.filter fun decision => decision.contentId?.isNone) where
  distinct := contentIds_nodup decisions
  nonempty id known := by
    obtain ⟨decision, member, own⟩ := mem_contentIds_iff.mp known
    have here : decision ∈ sortGroup now (decisionsFor id decisions) :=
      (sortDecisions_perm _ now _).mem_iff.mpr
        (List.mem_filter.mpr ⟨member, beq_iff_eq.mpr own⟩)
    exact List.ne_nil_of_mem here
  resolved id _ decision member := by
    have here := (sortDecisions_perm _ now _).mem_iff.mp member
    exact beq_iff_eq.mp (List.mem_filter.mp here).2
  unresolved decision member := by
    simpa using (List.mem_filter.mp member).2

theorem contentIds_prioritize (now : Timestamp) (decisions : List DownloadDecision) :
    contentIds (prioritize now decisions) = contentIds decisions := by
  rw [prioritize_eq]
  exact (arranged_prioritize now decisions).contentIds_eq

/-- What stands in the order for a content item is its sorted group. -/
theorem decisionsFor_prioritize (now : Timestamp) (decisions : List DownloadDecision) (id : Int) :
    decisionsFor id (prioritize now decisions) = sortGroup now (decisionsFor id decisions) := by
  by_cases known : id ∈ contentIds decisions
  · rw [prioritize_eq]
    exact (arranged_prioritize now decisions).decisionsFor_eq known
  · have absent := known
    rw [← contentIds_prioritize now] at absent
    rw [decisionsFor_eq_nil known, decisionsFor_eq_nil absent]
    exact List.mergeSort_nil.symm

theorem unresolved_prioritize (now : Timestamp) (decisions : List DownloadDecision) :
    (prioritize now decisions).filter (fun decision => decision.contentId?.isNone) =
      decisions.filter fun decision => decision.contentId?.isNone := by
  rw [prioritize_eq]
  exact (arranged_prioritize now decisions).unresolved_eq

/-- Rearranged decisions for one content item have the same profile in front. -/
theorem groupProfile_eq_of_perm (perm : others.Perm decisions)
    (alike : ∀ decision ∈ decisions, ∀ other ∈ decisions,
      decision.content.map Content.profile = other.content.map Content.profile) :
    groupProfile others = groupProfile decisions := by
  cases others with
  | nil => rw [perm.nil_eq]
  | cons first rest =>
    cases decisions with
    | nil => cases perm.eq_nil
    | cons second more =>
      have same := alike first (perm.mem_iff.mp List.mem_cons_self) second List.mem_cons_self
      simp only [groupProfile, List.head?_cons, Option.bind_some, same]

theorem sortGroup_sortGroup
    (alike : ∀ decision ∈ decisions, ∀ other ∈ decisions,
      decision.content.map Content.profile = other.content.map Content.profile) :
    sortGroup now (sortGroup now decisions) = sortGroup now decisions := by
  have profile : groupProfile (sortGroup now decisions) = groupProfile decisions :=
    groupProfile_eq_of_perm (sortDecisions_perm _ now decisions) alike
  rw [sortGroup, profile]
  exact List.mergeSort_of_pairwise
    ((sortDecisions_ascending (groupProfile decisions) now decisions).imp bne_iff_ne.mpr)

theorem AgreeOnProfiles.alike (agree : AgreeOnProfiles decisions) (id : Int) :
    ∀ decision ∈ decisionsFor id decisions, ∀ other ∈ decisionsFor id decisions,
      decision.content.map Content.profile = other.content.map Content.profile := by
  intro decision member other otherMember
  obtain ⟨known, own⟩ := List.mem_filter.mp member
  obtain ⟨otherKnown, same⟩ := List.mem_filter.mp otherMember
  exact agree decision known other otherKnown
    ((beq_iff_eq.mp own).trans (beq_iff_eq.mp same).symm)

/-- Decisions that are in the order in which they are to be downloaded stay in this order when they
are put in order again. -/
theorem prioritize_idem (now : Timestamp) (agree : AgreeOnProfiles decisions) :
    prioritize now (prioritize now decisions) = prioritize now decisions := by
  have groups (id : Int) :
      sortGroup now (decisionsFor id (prioritize now decisions)) =
        sortGroup now (decisionsFor id decisions) := by
    rw [decisionsFor_prioritize, sortGroup_sortGroup (agree.alike id)]
  rw [prioritize_eq now (prioritize now decisions), contentIds_prioritize,
    unresolved_prioritize, funext groups]
  exact (prioritize_eq now decisions).symm

/-- Releases of two shows and of none, the best one of a show not in front. The last one of the
second show has a quality that its profile does not name. -/
def someOffers : List DownloadDecision :=
  let show_ (id : Int) : Content :=
    { id, runtimeMinutes := 45, profile := { items := [.sdtv, .hdtv720p] } }
  let offer (title : String) (content : Option Content) (quality : Quality) : DownloadDecision :=
    { release := { title := title.toList, publishDate := .epoch }, content, quality := { quality } }
  [offer "A" (some (show_ 8)) .sdtv, offer "B" none .sdtv, offer "C" (some (show_ 3)) .hdtv720p,
    offer "D" (some (show_ 8)) .hdtv720p, offer "E" (some (show_ 3)) .hdtv720p,
    offer "F" (some (show_ 3)) .bluray1080p]

/-- The release of no show goes to the end, and stays there. -/
theorem prioritize_idem_someOffers :
    AgreeOnProfiles someOffers ∧
      (someOffers.map DownloadDecision.contentId?).getLast? = some (some 3) ∧
      ((prioritize .epoch someOffers).map DownloadDecision.contentId?).getLast? = some none ∧
      prioritize .epoch (prioritize .epoch someOffers) = prioritize .epoch someOffers := by
  have agree : AgreeOnProfiles someOffers := by
    decide
  have last : ((prioritize .epoch someOffers).map DownloadDecision.contentId?).getLast? =
      some none := by
    rw [prioritize_eq, List.map_append, List.getLast?_append]
    decide
  exact ⟨agree, rfl, last, prioritize_idem .epoch agree⟩

end Curator.Ranking
