import Curator.Proofs.Ranking.Regrouping

/-! The order in which releases arrive does not decide which one is downloaded. Whatever it was, the
decisions for a content item stand together, and at each place of their group is one with the same
quality, episode, weight, size and age. -/
namespace Curator.Ranking

/-- What decisions for one content item are compared by. -/
structure SortKeys where
  place : Nat
  revision : Nat
  firstEpisode : Nat
  weight : Int
  sizePerEpisode : Nat
  ageDays : Int
deriving DecidableEq, Repr

def sortKeys (profile : QualityProfile) (now : Timestamp) (decision : DownloadDecision) :
    SortKeys where
  place := profile.rankKey decision.quality.quality
  revision := decision.quality.revision.toNat
  firstEpisode := decision.firstEpisode
  weight := decision.release.weight
  sizePerEpisode := Ranking.sizePerEpisode decision
  ageDays := decision.release.ageDays now

theorem compareDecisions_eq_iff {profile : QualityProfile} {now : Timestamp}
    {left right : DownloadDecision} :
    compareDecisions profile now left right = .eq ↔
      sortKeys profile now left = sortKeys profile now right := by
  simp only [compareDecisions, QualityProfile.compare, Ordering.then_eq_eq,
    Std.LawfulEqOrd.compare_eq_iff_eq, sortKeys, SortKeys.mk.injEq]
  tauto

variable {decisions others : List DownloadDecision}

/-- What stands in the order for a content item stands together. -/
theorem decisionsFor_together (now : Timestamp) (decisions : List DownloadDecision) (id : Int) :
    decisionsFor id (prioritize now decisions) <:+: prioritize now decisions := by
  by_cases known : id ∈ contentIds decisions
  · have grouped : sortGroup now (decisionsFor id decisions) <:+:
        (contentIds decisions).flatMap fun id => sortGroup now (decisionsFor id decisions) :=
      List.infix_of_mem_flatten (List.mem_map_of_mem known)
    rw [decisionsFor_prioritize, prioritize_eq]
    exact grouped.trans (List.prefix_append _ _).isInfix
  · rw [← contentIds_prioritize now] at known
    rw [decisionsFor_eq_nil known]
    exact List.nil_infix

/-- The group of a content item is sorted by the profile that its decisions have. -/
theorem groupProfile_eq_profile (agree : AgreeOnProfiles decisions) {decision : DownloadDecision}
    {content : Content} (member : decision ∈ decisions)
    (resolved : decision.content = some content) :
    groupProfile (decisionsFor content.id decisions) = content.profile := by
  have own : decision.contentId? = some content.id :=
    Option.map_eq_some_iff.mpr ⟨content, resolved, rfl⟩
  obtain ⟨first, known, head, firstContent, same, profile⟩ :=
    groupProfile_decisionsFor (mem_contentIds_iff.mpr ⟨decision, member, own⟩)
  have firstId : first.contentId? = some content.id :=
    Option.map_eq_some_iff.mpr ⟨known, firstContent, same⟩
  have firstMember : first ∈ decisions := (List.mem_filter.mp (List.mem_of_head? head)).1
  have agreed := agree first firstMember decision member (firstId.trans own.symm)
  rw [firstContent, resolved] at agreed
  exact profile.trans (Option.some.inj agreed)

/-- Sorting rearranged decisions gives the same ones, and no two at the same place are told apart. -/
theorem sortDecisions_rearranged (profile : QualityProfile) (now : Timestamp)
    (perm : others.Perm decisions) :
    (sortDecisions profile now others).Perm (sortDecisions profile now decisions) ∧
      List.Forall₂ (fun first second => compareDecisions profile now first second = .eq)
        (sortDecisions profile now others) (sortDecisions profile now decisions) := by
  have same : (sortDecisions profile now others).Perm (sortDecisions profile now decisions) :=
    (sortDecisions_perm profile now others).trans
      (perm.trans (sortDecisions_perm profile now decisions).symm)
  exact ⟨same, forall₂_of_perm _ same (sortDecisions_ascending profile now others)
    (sortDecisions_ascending profile now decisions)⟩

/-- Whatever the order in which decisions arrive, those for a content item come out together, as
many and the same ones. Place by place they compare equal, so that the best one has the same quality,
episode, weight, size and age. -/
theorem prioritize_rearranged (now : Timestamp) (agree : AgreeOnProfiles decisions)
    (perm : others.Perm decisions) {decision : DownloadDecision} {content : Content}
    (member : decision ∈ decisions) (resolved : decision.content = some content) :
    let group := decisionsFor content.id (prioritize now decisions)
    let rearranged := decisionsFor content.id (prioritize now others)
    group <:+: prioritize now decisions ∧ rearranged <:+: prioritize now others ∧
      rearranged.length = group.length ∧ rearranged.Perm group ∧
      List.Forall₂ (fun first second => compareDecisions content.profile now first second = .eq)
        rearranged group ∧
      ∃ best bestBefore, rearranged.head? = some best ∧ group.head? = some bestBefore ∧
        sortKeys content.profile now best = sortKeys content.profile now bestBefore := by
  intro group rearranged
  have own : (decisionsFor content.id others).Perm (decisionsFor content.id decisions) :=
    perm.filter _
  have profile := groupProfile_eq_profile agree member resolved
  have profileOthers := (groupProfile_eq_of_perm own (agree.alike content.id)).trans profile
  have groupEq : group = sortDecisions content.profile now (decisionsFor content.id decisions) := by
    rw [← profile]
    exact decisionsFor_prioritize now decisions content.id
  have rearrangedEq :
      rearranged = sortDecisions content.profile now (decisionsFor content.id others) := by
    rw [← profileOthers]
    exact decisionsFor_prioritize now others content.id
  obtain ⟨same, equal⟩ := sortDecisions_rearranged content.profile now own
  rw [← groupEq, ← rearrangedEq] at same equal
  refine ⟨decisionsFor_together now decisions _, decisionsFor_together now others _, same.length_eq,
    same, equal, ?_⟩
  have here : decision ∈ group := List.mem_filter.mpr
    ⟨(prioritize_perm now decisions).mem_iff.mpr member,
      beq_iff_eq.mpr (Option.map_eq_some_iff.mpr ⟨content, resolved, rfl⟩)⟩
  obtain ⟨bestBefore, rest, groupCons⟩ := List.exists_cons_of_ne_nil (List.ne_nil_of_mem here)
  rw [groupCons] at equal ⊢
  obtain ⟨best, _, first, _, rearrangedCons⟩ := List.forall₂_cons_right_iff.mp equal
  rw [rearrangedCons]
  exact ⟨best, bestBefore, rfl, rfl, compareDecisions_eq_iff.mp first⟩

/-- The releases of two shows arrive the other way round. Two of the second show compare equal. -/
theorem prioritize_rearranged_someOffers :
    let profile : QualityProfile := { items := [.sdtv, .hdtv720p] }
    AgreeOnProfiles someOffers ∧ someOffers.reverse.Perm someOffers ∧
      (decisionsFor 3 someOffers).map (fun offer => String.ofList offer.release.title) =
        ["C", "E", "F"] ∧
      (decisionsFor 3 someOffers.reverse).map (fun offer => String.ofList offer.release.title) =
        ["F", "E", "C"] ∧
      List.Forall₂ (fun first second => compareDecisions profile .epoch first second = .eq)
        (decisionsFor 3 (prioritize .epoch someOffers.reverse))
        (decisionsFor 3 (prioritize .epoch someOffers)) := by
  intro profile
  have agree : AgreeOnProfiles someOffers := by
    decide
  have perm : someOffers.reverse.Perm someOffers := someOffers.reverse_perm
  obtain ⟨offer, member, resolved⟩ : ∃ offer ∈ someOffers,
      offer.content = some { id := 3, runtimeMinutes := 45, profile } := by
    decide
  obtain ⟨_, _, _, _, equal, _⟩ := prioritize_rearranged .epoch agree perm member resolved
  exact ⟨agree, perm, by decide, by decide, equal⟩

end Curator.Ranking
