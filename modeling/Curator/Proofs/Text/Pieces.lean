import Curator.Text.Basic

/-! Texts cut at separators: all pieces, and the two sides of the first and the last separator. -/
namespace Curator.Text

variable {separator : Char}

theorem splitAll_append_cons (left right : List Char) :
    splitAll separator (left ++ separator :: right) =
      splitAll separator left ++ splitAll separator right := by
  induction left with
  | nil => simp [splitAll]
  | cons character left ih =>
    rw [List.cons_append, splitAll, splitAll, ih]
    split
    · rfl
    · cases pieces : splitAll separator left with
      | nil => exact absurd pieces (splitAll_ne_nil separator left)
      | cons piece pieces => rfl

theorem splitAll_of_not_mem {text : List Char} (absent : separator ∉ text) :
    splitAll separator text = [text] := by
  induction text with
  | nil => rfl
  | cons character text ih =>
    rw [List.mem_cons, not_or] at absent
    rw [splitAll, if_neg (Ne.symm absent.1), ih absent.2]

theorem not_mem_of_mem_splitAll {text piece : List Char}
    (member : piece ∈ splitAll separator text) : separator ∉ piece := by
  induction text generalizing piece with
  | nil =>
    rw [splitAll, List.mem_singleton] at member
    simp [member]
  | cons character text ih =>
    rw [splitAll] at member
    split at member
    · rcases List.mem_cons.mp member with rfl | behind
      · exact List.not_mem_nil
      · exact ih behind
    · rename_i other
      cases pieces : splitAll separator text with
      | nil => exact absurd pieces (splitAll_ne_nil separator text)
      | cons first others =>
        rw [pieces] at member ih
        rcases List.mem_cons.mp member with rfl | behind
        · rw [List.mem_cons, not_or]
          exact ⟨Ne.symm other, ih (List.mem_cons_self ..)⟩
        · exact ih (List.mem_cons_of_mem _ behind)

theorem splitLast?_eq_some {text before behind : List Char}
    (split : splitLast? separator text = some (before, behind)) :
    text = before ++ separator :: behind := by
  unfold splitLast? at split
  obtain ⟨⟨back, front⟩, found, same⟩ := Option.map_eq_some_iff.mp split
  obtain ⟨rfl, rfl⟩ := Prod.mk.inj same
  have joined := congrArg List.reverse (splitFirst?_eq_some found).1
  simpa using joined

theorem splitFirst?_append_cons {before : List Char} (absent : separator ∉ before)
    (behind : List Char) : splitFirst? separator (before ++ separator :: behind) =
      some (before, behind) := by
  induction before with
  | nil => exact if_pos rfl
  | cons character before ih =>
    rw [List.mem_cons, not_or] at absent
    rw [List.cons_append, splitFirst?, if_neg (Ne.symm absent.1), ih absent.2]
    rfl

theorem splitFirst?_eq_none_of_not_mem {text : List Char} (absent : separator ∉ text) :
    splitFirst? separator text = none := by
  cases found : splitFirst? separator text with
  | none => rfl
  | some sides =>
    refine absurd ?_ absent
    rw [(splitFirst?_eq_some found).1]
    exact List.mem_append_right _ List.mem_cons_self

theorem splitLast?_append_cons {behind : List Char} (absent : separator ∉ behind)
    (before : List Char) : splitLast? separator (before ++ separator :: behind) =
      some (before, behind) := by
  have mirrored : (before ++ separator :: behind).reverse =
      behind.reverse ++ separator :: before.reverse := by
    simp
  rw [splitLast?, mirrored, splitFirst?_append_cons (mt List.mem_reverse.mp absent)]
  simp

end Curator.Text
