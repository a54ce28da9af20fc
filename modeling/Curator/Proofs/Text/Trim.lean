import Curator.Text.Basic
import Mathlib.Data.List.TakeWhile

/-! What trimming leaves of a text: a stretch of it that neither begins nor ends with white space.
-/
namespace Curator.Text

structure IsTrimmed (text : List Char) : Prop where
  head : ∀ first, text.head? = some first → isWhiteSpace first = false
  last : ∀ last, text.getLast? = some last → isWhiteSpace last = false

theorem trimEnd_prefix (text : List Char) : trimEnd text <+: text := by
  induction text with
  | nil => exact List.prefix_rfl
  | cons character rest ih =>
    unfold trimEnd
    split
    · split
      · exact List.nil_prefix
      · exact List.prefix_append [character] rest
    · rename_i kept _
      exact List.prefix_cons_inj character |>.mpr ih

theorem isWhiteSpace_of_head?_trimStart {text : List Char} {first : Char}
    (found : (trimStart text).head? = some first) : isWhiteSpace first = false := by
  have stops := List.head?_dropWhile_not isWhiteSpace text
  rw [trimStart] at found
  rwa [found] at stops

theorem isWhiteSpace_of_getLast?_trimEnd {text : List Char} {last : Char}
    (found : (trimEnd text).getLast? = some last) : isWhiteSpace last = false := by
  induction text with
  | nil => cases found
  | cons character rest ih =>
    unfold trimEnd at found
    split at found
    · split at found
      · cases found
      · rename_i shown
        obtain rfl : character = last := Option.some.inj found
        exact Bool.eq_false_iff.mpr shown
    · rename_i more
      -- Something is kept behind the character, and the last of it is the last of all.
      refine ih ?_
      cases kept : trimEnd rest with
      | nil => exact absurd kept more
      | cons next others => rwa [kept, List.getLast?_cons_cons] at found

theorem isTrimmed_trim (text : List Char) : IsTrimmed (trim text) where
  head first found := by
    obtain ⟨dropped, whole⟩ := trimEnd_prefix (trimStart text)
    have leads : (trimStart text).head? = some first := by
      rw [← whole, List.head?_append]
      exact congrArg (·.or dropped.head?) found
    exact isWhiteSpace_of_head?_trimStart leads
  last _ found := isWhiteSpace_of_getLast?_trimEnd found

def IsBlank (text : List Char) : Prop :=
  ∀ character ∈ text, isWhiteSpace character = true

instance (text : List Char) : Decidable (IsBlank text) :=
  decidable_of_iff (text.all isWhiteSpace = true) List.all_eq_true

theorem IsBlank.trimEnd_eq_nil {text : List Char} (blank : IsBlank text) : trimEnd text = [] := by
  induction text with
  | nil => rfl
  | cons character rest ih =>
    obtain ⟨first, others⟩ := List.forall_mem_cons.mp blank
    rw [trimEnd, ih others]
    exact if_pos first

theorem trimEnd_append_of_isBlank (text : List Char) {blank : List Char} (isBlank : IsBlank blank) :
    trimEnd (text ++ blank) = trimEnd text := by
  induction text with
  | nil => exact isBlank.trimEnd_eq_nil
  | cons character text ih => rw [List.cons_append, trimEnd, ih, trimEnd]

theorem trimEnd_eq_self {text : List Char}
    (visible : ∀ last, text.getLast? = some last → isWhiteSpace last = false) :
    trimEnd text = text := by
  induction text with
  | nil => rfl
  | cons character rest ih =>
    cases rest with
    | nil => simp [trimEnd, visible character rfl]
    | cons next others =>
      rw [List.getLast?_cons_cons] at visible
      rw [trimEnd, ih visible]

theorem trimStart_eq_self {text : List Char}
    (visible : ∀ first, text.head? = some first → isWhiteSpace first = false) :
    trimStart text = text := by
  cases text with
  | nil => rfl
  | cons first rest => exact List.dropWhile_cons_of_neg (by simp [visible first rfl])

/-- White space in front of a text goes, and what is behind it stays. -/
theorem trimStart_append {blank text : List Char} (isBlank : IsBlank blank)
    (visible : ∀ first, text.head? = some first → isWhiteSpace first = false) :
    trimStart (blank ++ text) = text := by
  rw [trimStart, List.dropWhile_append_of_pos isBlank]
  exact trimStart_eq_self visible

theorem exists_isBlank_append_trimStart (text : List Char) :
    ∃ blank, IsBlank blank ∧ text = blank ++ trimStart text :=
  ⟨text.takeWhile isWhiteSpace, fun _ member => List.mem_takeWhile_imp member,
    List.takeWhile_append_dropWhile.symm⟩

/-- Trimming takes away the white space around a text, and nothing else. -/
theorem trim_around {text : List Char} (trimmed : IsTrimmed text) (shown : text ≠ [])
    {before after : List Char} (blankBefore : IsBlank before) (blankAfter : IsBlank after) :
    trim (before ++ text ++ after) = text := by
  have front : trimStart (before ++ text ++ after) = text ++ after := by
    rw [List.append_assoc]
    refine trimStart_append blankBefore fun first found => trimmed.head first ?_
    cases text with
    | nil => exact absurd rfl shown
    | cons first rest => exact found
  rw [trim, front, trimEnd_append_of_isBlank text blankAfter, trimEnd_eq_self trimmed.last]

end Curator.Text
