import Curator.Proofs.Ranking.Comparison
import Mathlib.Data.List.Induction
import Mathlib.Data.List.Perm.Basic

/-! Grouping decisions in one pass puts every decision with those for the same content item, in the
order of the input, and the groups in the order in which their items first appear. -/
namespace Curator.Ranking

/-- The ids of the content items, in the order in which they first appear. -/
def contentIds (decisions : List DownloadDecision) : List Int :=
  (decisions.filterMap DownloadDecision.contentId?).eraseDups

def decisionsFor (id : Int) (decisions : List DownloadDecision) : List DownloadDecision :=
  decisions.filter fun decision => decision.contentId? == some id

/-- Where the first decision for a content item stands. -/
def firstPlace (id : Int) (decisions : List DownloadDecision) : Nat :=
  decisions.findIdx fun decision => decision.contentId? == some id

theorem mem_contentIds_iff {decisions : List DownloadDecision} {id : Int} :
    id ∈ contentIds decisions ↔ ∃ decision ∈ decisions, decision.contentId? = some id := by
  rw [contentIds, List.mem_eraseDups, List.mem_filterMap]

theorem contentIds_append_none {decisions : List DownloadDecision} {decision : DownloadDecision}
    (unresolved : decision.contentId? = none) :
    contentIds (decisions ++ [decision]) = contentIds decisions := by
  simp [contentIds, unresolved]

private theorem contentIds_append_some {decisions : List DownloadDecision}
    {decision : DownloadDecision} {id : Int} (resolved : decision.contentId? = some id) :
    contentIds (decisions ++ [decision]) =
      contentIds decisions ++
        ([id].removeAll (decisions.filterMap DownloadDecision.contentId?)).eraseDups := by
  have last : [decision].filterMap DownloadDecision.contentId? = [id] := by simp [resolved]
  rw [contentIds, List.filterMap_append, List.eraseDups_append, last, contentIds]

theorem contentIds_append_known {decisions : List DownloadDecision} {decision : DownloadDecision}
    {id : Int} (resolved : decision.contentId? = some id) (known : id ∈ contentIds decisions) :
    contentIds (decisions ++ [decision]) = contentIds decisions := by
  rw [contentIds, List.mem_eraseDups] at known
  rw [contentIds_append_some resolved, List.removeAll,
    List.filter_cons_of_neg (by rw [List.elem_eq_true_of_mem known]; exact Bool.false_ne_true)]
  exact List.append_nil _

theorem contentIds_append_new {decisions : List DownloadDecision} {decision : DownloadDecision}
    {id : Int} (resolved : decision.contentId? = some id) (new : id ∉ contentIds decisions) :
    contentIds (decisions ++ [decision]) = contentIds decisions ++ [id] := by
  rw [contentIds, List.mem_eraseDups] at new
  rw [contentIds_append_some resolved, List.removeAll,
    List.filter_cons_of_pos (by rw [List.elem_eq_contains, List.contains_eq_mem]; simpa using new)]
  rfl

theorem decisionsFor_append (id : Int) (decisions : List DownloadDecision)
    (decision : DownloadDecision) :
    decisionsFor id (decisions ++ [decision]) =
      decisionsFor id decisions ++ if decision.contentId? = some id then [decision] else [] := by
  rw [decisionsFor, List.filter_append, decisionsFor]
  congr 1
  by_cases same : decision.contentId? = some id <;> simp [same]

theorem decisionsFor_eq_nil {id : Int} {decisions : List DownloadDecision}
    (absent : id ∉ contentIds decisions) : decisionsFor id decisions = [] := by
  rw [decisionsFor, List.filter_eq_nil_iff]
  intro decision member same
  exact absent (mem_contentIds_iff.mpr ⟨decision, member, by simpa using same⟩)

/-- Every id appears once, and an id stands before those that first appear after it. -/
theorem contentIds_ordered (decisions : List DownloadDecision) :
    (contentIds decisions).Pairwise fun earlier later =>
      firstPlace earlier decisions < firstPlace later decisions := by
  -- Along the groups as they are made: the last decision comes to those that are there already.
  induction decisions using List.reverseRecOn with
  | nil => exact List.Pairwise.nil
  | append_singleton decisions decision ih =>
    have inside : ∀ id ∈ contentIds decisions,
        firstPlace id (decisions ++ [decision]) = firstPlace id decisions ∧
          firstPlace id decisions < decisions.length := by
      intro id known
      obtain ⟨found, member, same⟩ := mem_contentIds_iff.mp known
      have early : firstPlace id decisions < decisions.length :=
        List.findIdx_lt_length_of_exists ⟨found, member, by simp [same]⟩
      refine ⟨?_, early⟩
      rw [firstPlace, List.findIdx_append]
      exact if_pos early
    have kept : (contentIds decisions).Pairwise fun earlier later =>
        firstPlace earlier (decisions ++ [decision]) <
          firstPlace later (decisions ++ [decision]) := by
      refine List.Pairwise.imp_of_mem ?_ ih
      intro earlier later earlierKnown laterKnown ordered
      rw [(inside earlier earlierKnown).1, (inside later laterKnown).1]
      exact ordered
    cases resolved : decision.contentId? with
    | none => rwa [contentIds_append_none resolved]
    | some id =>
      by_cases known : id ∈ contentIds decisions
      · rwa [contentIds_append_known resolved known]
      · rw [contentIds_append_new resolved known, List.pairwise_append]
        refine ⟨kept, List.pairwise_singleton _ _, ?_⟩
        intro earlier earlierKnown later isNew
        rw [List.mem_singleton.mp isNew, (inside earlier earlierKnown).1]
        have absent : firstPlace id decisions = decisions.length := by
          rw [firstPlace, List.findIdx_eq_length]
          intro other member
          simp only [beq_eq_false_iff_ne]
          intro same
          exact known (mem_contentIds_iff.mpr ⟨other, member, same⟩)
        have last : decisions.length ≤ firstPlace id (decisions ++ [decision]) := by
          rw [firstPlace, List.findIdx_append]
          rw [firstPlace] at absent
          simp [absent]
        have early := (inside earlier earlierKnown).2
        omega

theorem contentIds_nodup (decisions : List DownloadDecision) : (contentIds decisions).Nodup := by
  refine (contentIds_ordered decisions).imp ?_
  rintro earlier later ordered rfl
  exact Nat.lt_irrefl _ ordered

namespace Grouping

/-- A grouping that holds the decisions of a list: a group for each content item in the order of the
ids, and the place of each group under the id of its item. -/
structure Holds (grouping : Grouping) (decisions : List DownloadDecision) : Prop where
  groups : grouping.groups.toList.map Array.toList =
    (contentIds decisions).map (decisionsFor · decisions)
  places : ∀ (id : Int) (place : Nat), grouping.places[id]? = some place ↔
    (contentIds decisions)[place]? = some id
  unresolved : grouping.unresolved.toList =
    decisions.filter fun decision => decision.contentId?.isNone

variable {grouping : Grouping} {decisions : List DownloadDecision} {decision : DownloadDecision}

theorem Holds.add_unresolved (holds : grouping.Holds decisions)
    (unresolved : decision.contentId? = none) :
    (grouping.add decision).Holds (decisions ++ [decision]) := by
  have same : (decisionsFor · (decisions ++ [decision])) = (decisionsFor · decisions) := by
    funext id
    simp [decisionsFor_append, unresolved]
  simp only [add, unresolved]
  exact {
    groups := by rw [contentIds_append_none unresolved, same, holds.groups]
    places := by
      rw [contentIds_append_none unresolved]
      exact holds.places
    unresolved := by simp [holds.unresolved, unresolved] }

private theorem places_insert {ids : List Int} {places : Std.HashMap Int Nat}
    (placed : ∀ (id : Int) (place : Nat), places[id]? = some place ↔ ids[place]? = some id)
    {new : Int} (unplaced : places[new]? = none) (id : Int) (place : Nat) :
    (places.insert new ids.length)[id]? = some place ↔ (ids ++ [new])[place]? = some id := by
  rw [Std.HashMap.getElem?_insert]
  rcases Nat.lt_trichotomy place ids.length with before | here | behind
  · rw [List.getElem?_append_left before, ← placed id place]
    by_cases same : new = id
    · subst id
      simpa [unplaced] using Nat.ne_of_gt before
    · simp [same]
  · subst here
    by_cases same : new = id
    · simp [same]
    · have elsewhere : places[id]? ≠ some ids.length := by
        rw [ne_eq, placed]
        simp
      simp [same, elsewhere]
  · have none : (ids ++ [new])[place]? = none := by
      rw [List.getElem?_eq_none_iff, List.length_append, List.length_singleton]
      exact behind
    have elsewhere : places[id]? ≠ some place := by
      rw [ne_eq, placed, List.getElem?_eq_none_iff.mpr (Nat.le_of_lt behind)]
      simp
    by_cases same : new = id
    · subst id
      simpa [none] using Nat.ne_of_lt behind
    · simp [same, none, elsewhere]

theorem Holds.add_new (holds : grouping.Holds decisions) {id : Int}
    (resolved : decision.contentId? = some id) (new : grouping.places[id]? = none) :
    (grouping.add decision).Holds (decisions ++ [decision]) := by
  have absent : id ∉ contentIds decisions := by
    intro known
    obtain ⟨place, found⟩ := List.getElem?_of_mem known
    rw [(holds.places id place).mpr found] at new
    cases new
  have size : grouping.groups.size = (contentIds decisions).length := by
    simpa using congrArg List.length holds.groups
  have others : ∀ other ∈ contentIds decisions,
      decisionsFor other (decisions ++ [decision]) = decisionsFor other decisions := by
    intro other known
    have different : id ≠ other := by
      rintro rfl
      exact absent known
    simp [decisionsFor_append, resolved, different]
  simp only [add, resolved, new]
  exact {
    groups := by
      rw [contentIds_append_new resolved absent, List.map_append, List.map_congr_left others,
        ← holds.groups]
      simp [decisionsFor_append, resolved, decisionsFor_eq_nil absent]
    places := by
      rw [contentIds_append_new resolved absent, size]
      exact places_insert holds.places new
    unresolved := by simp [holds.unresolved, resolved] }

theorem Holds.add_known (holds : grouping.Holds decisions) {id : Int} {place : Nat}
    (resolved : decision.contentId? = some id) (known : grouping.places[id]? = some place) :
    (grouping.add decision).Holds (decisions ++ [decision]) := by
  have here := (holds.places id place).mp known
  have member := List.mem_of_getElem? here
  simp only [add, resolved, known]
  exact {
    groups := by
      rw [contentIds_append_known resolved member, Array.toList_modify]
      apply List.ext_getElem?
      intro index
      have matching := congrArg (·[index]?) holds.groups
      simp only [List.getElem?_map] at matching
      rw [List.getElem?_map, List.getElem?_map, List.getElem?_modify]
      by_cases same : place = index
      · subst index
        rw [here] at matching ⊢
        obtain ⟨group, found, listed⟩ := Option.map_eq_some_iff.mp matching
        simp [found, listed, decisionsFor_append, resolved]
      · simp only [if_neg same, Option.map_eq_map, Option.map_id_fun', id_eq, matching]
        cases found : (contentIds decisions)[index]? with
        | none => rfl
        | some other =>
          have different : id ≠ other := by
            rintro rfl
            have placed := (holds.places id index).mpr found
            rw [known] at placed
            exact same (Option.some.inj placed)
          simp [decisionsFor_append, resolved, different]
    places := by
      rw [contentIds_append_known resolved member]
      exact holds.places
    unresolved := by simp [holds.unresolved, resolved] }

theorem Holds.add (holds : grouping.Holds decisions) (decision : DownloadDecision) :
    (grouping.add decision).Holds (decisions ++ [decision]) := by
  cases resolved : decision.contentId? with
  | none => exact holds.add_unresolved resolved
  | some id =>
    cases placed : grouping.places[id]? with
    | none => exact holds.add_new resolved placed
    | some place => exact holds.add_known resolved placed

theorem holds_ofList (decisions : List DownloadDecision) :
    (ofList decisions).Holds decisions := by
  induction decisions using List.reverseRecOn with
  | nil =>
    exact {
      groups := rfl
      places := by simp [ofList, contentIds]
      unresolved := rfl }
  | append_singleton decisions decision ih =>
    rw [ofList, List.foldl_append]
    exact ih.add decision

end Grouping

/-- The order of all decisions by content items: the sorted decisions for each, and then those for
none. -/
theorem prioritize_eq (now : Timestamp) (decisions : List DownloadDecision) :
    prioritize now decisions =
      ((contentIds decisions).flatMap fun id => sortGroup now (decisionsFor id decisions)) ++
        decisions.filter fun decision => decision.contentId?.isNone := by
  have holds := Grouping.holds_ofList decisions
  have groups : (Grouping.ofList decisions).groups.toList.flatMap
      (fun group => sortGroup now group.toList) =
        (contentIds decisions).flatMap fun id => sortGroup now (decisionsFor id decisions) := by
    rw [List.flatMap_def, List.flatMap_def]
    have sorted := congrArg (List.map (sortGroup now)) holds.groups
    rw [List.map_map, List.map_map] at sorted
    exact congrArg List.flatten sorted
  rw [prioritize, groups, holds.unresolved]

private theorem filter_append_filter_perm {α : Type} (first second : α → Bool) (items : List α)
    (apart : ∀ item, first item = true → second item = false) :
    (items.filter first ++ items.filter second).Perm
      (items.filter fun item => first item || second item) := by
  have parts := List.filter_append_perm first (items.filter fun item => first item || second item)
  rw [List.filter_filter, List.filter_filter] at parts
  have left : (fun item => first item && (first item || second item)) = first := by
    funext item
    cases first item <;> simp
  have right : (fun item => !first item && (first item || second item)) = second := by
    funext item
    cases one : first item with
    | false => simp
    | true => simp [apart item one]
  rwa [left, right] at parts

private theorem flatMap_decisionsFor_perm (ids : List Int) (distinct : ids.Nodup)
    (decisions : List DownloadDecision) :
    (ids.flatMap (decisionsFor · decisions)).Perm
      (decisions.filter fun decision => ids.any fun id => decision.contentId? == some id) := by
  induction ids with
  | nil => simp
  | cons id ids ih =>
    obtain ⟨absent, rest⟩ := List.nodup_cons.mp distinct
    refine ((ih rest).append_left (decisionsFor id decisions)).trans ?_
    refine filter_append_filter_perm _ _ decisions ?_
    intro decision same
    rw [List.any_eq_false]
    intro other member
    rw [beq_iff_eq] at same
    rw [same, beq_iff_eq, Option.some.injEq]
    rintro rfl
    exact absent member

theorem prioritize_perm (now : Timestamp) (decisions : List DownloadDecision) :
    (prioritize now decisions).Perm decisions := by
  have sorted : ((contentIds decisions).flatMap fun id =>
      sortGroup now (decisionsFor id decisions)).Perm
        ((contentIds decisions).flatMap (decisionsFor · decisions)) :=
    List.Perm.flatMap_left _ fun id _ => sortDecisions_perm _ now _
  have grouped := flatMap_decisionsFor_perm (contentIds decisions) (contentIds_nodup decisions)
    decisions
  have resolved : (decisions.filter fun decision =>
      (contentIds decisions).any fun id => decision.contentId? == some id) =
        decisions.filter fun decision => !decision.contentId?.isNone := by
    apply List.filter_congr
    intro decision member
    cases own : decision.contentId? with
    | none => simp
    | some id =>
      have known : id ∈ contentIds decisions := mem_contentIds_iff.mpr ⟨decision, member, own⟩
      simpa using known
  rw [prioritize_eq]
  refine ((sorted.trans grouped).append_right _).trans ?_
  rw [resolved]
  refine List.perm_append_comm.trans ?_
  exact List.filter_append_perm _ decisions

theorem groupProfile_decisionsFor {id : Int} {decisions : List DownloadDecision}
    (known : id ∈ contentIds decisions) :
    ∃ first content, (decisionsFor id decisions).head? = some first ∧
      first.content = some content ∧ content.id = id ∧
      groupProfile (decisionsFor id decisions) = content.profile := by
  obtain ⟨decision, member, same⟩ := mem_contentIds_iff.mp known
  have own : decision ∈ decisionsFor id decisions :=
    List.mem_filter.mpr ⟨member, by simp [same]⟩
  cases group : decisionsFor id decisions with
  | nil =>
    rw [group] at own
    cases own
  | cons first rest =>
    have firstMember : first ∈ decisionsFor id decisions := by simp [group]
    have firstId : first.contentId? = some id := by
      simpa using (List.mem_filter.mp firstMember).2
    obtain ⟨content, found, idSame⟩ := Option.map_eq_some_iff.mp firstId
    exact ⟨first, content, rfl, found, idSame, by simp [groupProfile, found]⟩

/-- The order in which decisions are to be downloaded is one of the same decisions. Those for one
content item stand together, the items in the order in which they first appear, and those for none
come last as they were. The profile of the first decision for an item sorts all that are for it, and
where its comparison, a total preorder, finds two equal they keep their order. -/
theorem prioritize_by_content (now : Timestamp) (decisions : List DownloadDecision) :
    (prioritize now decisions).Perm decisions ∧
      (∀ profile, Std.TransCmp (compareDecisions profile now)) ∧
      ∃ (ids : List Int) (group : Int → List DownloadDecision),
        prioritize now decisions =
          ids.flatMap group ++ decisions.filter (fun decision => decision.content.isNone) ∧
        (∀ id, id ∈ ids ↔ ∃ decision ∈ decisions, decision.contentId? = some id) ∧
        ids.Nodup ∧
        (ids.Pairwise fun earlier later =>
          firstPlace earlier decisions < firstPlace later decisions) ∧
        ∀ id ∈ ids, (group id).Perm (decisionsFor id decisions) ∧
          ∃ first content, (decisionsFor id decisions).head? = some first ∧
            first.content = some content ∧ content.id = id ∧
            ((group id).Pairwise fun better worse =>
              compareDecisions content.profile now better worse ≠ .gt) ∧
            ∀ decision,
              (group id).filter
                  (fun other => compareDecisions content.profile now decision other == .eq) =
                (decisionsFor id decisions).filter fun other =>
                  compareDecisions content.profile now decision other == .eq := by
  refine ⟨prioritize_perm now decisions, fun profile => inferInstance, contentIds decisions,
    fun id => sortGroup now (decisionsFor id decisions), ?_, fun id => mem_contentIds_iff,
    contentIds_nodup decisions, contentIds_ordered decisions, ?_⟩
  · rw [prioritize_eq]
    simp [DownloadDecision.contentId?]
  · intro id known
    obtain ⟨first, content, head, own, same, profile⟩ := groupProfile_decisionsFor known
    refine ⟨sortDecisions_perm _ now _, first, content, head, own, same, ?_, ?_⟩
    · simp only [sortGroup, profile]
      exact sortDecisions_ascending content.profile now _
    · intro decision
      simp only [sortGroup, profile]
      exact sortDecisions_stable content.profile now _ decision

end Curator.Ranking
