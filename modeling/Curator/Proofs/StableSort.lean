import Mathlib.Data.List.Basic
import Mathlib.Data.List.Forall2

/-! A stable sort leaves items in their order where the comparison does not tell them apart.
Whatever the order in which the same items come, sorted lists of them are the same as far as it
does. -/
namespace Curator

variable {α : Type} {atMost : α → α → Bool}

/-- Among items each of which may stand before the others, sorting changes nothing. -/
theorem filter_mergeSort
    (trans : ∀ a b c, atMost a b = true → atMost b c = true → atMost a c = true)
    (total : ∀ a b, (atMost a b || atMost b a) = true) (isMember : α → Bool) (items : List α)
    (alike : ∀ a b, isMember a = true → isMember b = true → atMost a b = true) :
    (items.mergeSort atMost).filter isMember = items.filter isMember := by
  have members : (items.filter isMember).Pairwise fun a b => atMost a b = true := by
    apply List.pairwise_of_forall_mem_list
    intro a first b second
    exact alike a b (List.mem_filter.mp first).2 (List.mem_filter.mp second).2
  have inside : (items.filter isMember).Sublist (items.mergeSort atMost) :=
    List.sublist_mergeSort trans total members List.filter_sublist
  have within := inside.filter isMember
  rw [List.filter_filter] at within
  simp only [Bool.and_self] at within
  have sizes : ((items.mergeSort atMost).filter isMember).length =
      (items.filter isMember).length :=
    ((List.mergeSort_perm items atMost).filter isMember).length_eq
  exact (within.eq_of_length sizes.symm).symm

section
variable (cmp : α → α → Ordering) [Std.TransCmp cmp]

private theorem atMost_trans (a b c : α) (first : (cmp a b != .gt) = true)
    (second : (cmp b c != .gt) = true) : (cmp a c != .gt) = true := by
  simp only [bne_iff_ne, ne_eq, Ordering.ne_gt_iff_isLE] at first second ⊢
  exact Std.TransCmp.isLE_trans first second

private theorem atMost_total (a b : α) : (cmp a b != .gt || cmp b a != .gt) = true := by
  have swapped : cmp b a = (cmp a b).swap := Std.OrientedCmp.eq_swap
  rw [swapped]
  cases cmp a b <;> rfl

theorem pairwise_sorted (items : List α) :
    (items.mergeSort fun first second => cmp first second != .gt).Pairwise
      fun first second => cmp first second ≠ .gt :=
  (List.pairwise_mergeSort (atMost_trans cmp) (atMost_total cmp) items).imp bne_iff_ne.mp

theorem filter_sorted (items : List α) (isMember : α → Bool)
    (alike : ∀ a b, isMember a = true → isMember b = true → cmp a b = .eq) :
    (items.mergeSort fun first second => cmp first second != .gt).filter isMember =
      items.filter isMember := by
  apply filter_mergeSort (atMost_trans cmp) (atMost_total cmp)
  intro a b first second
  rw [alike a b first second]
  rfl

end

/-- Items that a comparison does not tell apart. -/
def alike (cmp : α → α → Ordering) [Std.TransCmp cmp] : Setoid α where
  r left right := cmp left right = .eq
  iseqv :=
    { refl := fun _ => Std.ReflCmp.compare_self
      symm := Std.OrientedCmp.eq_symm
      trans := Std.TransCmp.eq_trans }

/-- Two ascending lists of the same items have, place by place, items that the comparison does not
tell apart. -/
theorem forall₂_of_perm (cmp : α → α → Ordering) [Std.TransCmp cmp] {left right : List α}
    (perm : left.Perm right)
    (leftAscending : left.Pairwise fun better worse => cmp better worse ≠ .gt)
    (rightAscending : right.Pairwise fun better worse => cmp better worse ≠ .gt) :
    List.Forall₂ (fun first second => cmp first second = .eq) left right := by
  have congr : ∀ a b c d : α, cmp a c = .eq → cmp b d = .eq → cmp a b = cmp c d :=
    fun _ _ _ _ first second =>
      (Std.TransCmp.congr_left first).trans (Std.TransCmp.congr_right second)
  -- On classes of items that are alike the comparison is antisymmetric.
  let atMost (first second : Quotient (alike cmp)) : Prop :=
    Quotient.lift₂ cmp congr first second ≠ .gt
  have antisymm : ∀ first second, atMost first second → atMost second first → first = second := by
    rintro ⟨first⟩ ⟨second⟩ upTo back
    refine Quotient.sound (Std.OrientedCmp.isLE_antisymm ?_ ?_)
    · exact Ordering.ne_gt_iff_isLE.mp upTo
    · exact Ordering.ne_gt_iff_isLE.mp back
  have same : left.map (Quotient.mk (alike cmp)) = right.map (Quotient.mk (alike cmp)) :=
    (perm.map _).eq_of_pairwise (fun first second _ _ => antisymm first second)
      (List.pairwise_map.mpr leftAscending) (List.pairwise_map.mpr rightAscending)
  rw [← List.forall₂_eq_eq_eq, List.forall₂_map_left_iff, List.forall₂_map_right_iff] at same
  exact same.imp fun _ _ => Quotient.exact

end Curator
