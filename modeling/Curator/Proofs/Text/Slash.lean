import Curator.Proofs.Text.Ascii
import Curator.Proofs.Text.Lowercase

/-! Lower case of texts with slashes. A slash has no case and context does not look past it, and no
other character becomes one; so what stands on either side of a slash is put in small letters alone.
-/
namespace Curator.Text

theorem reachesCased_slash (rest : List Char) : reachesCased ('/' :: rest) = false := by
  have kept : caseIgnorableRanges.holds '/' = false := by decide +kernel
  have uncased : casedRanges.holds '/' = false := by decide +kernel
  simp [reachesCased_cons, kept, uncased]

theorem reachesCased_append_slash (text rest : List Char) :
    reachesCased (text ++ '/' :: rest) = reachesCased text := by
  by_cases ignorable : ∀ character ∈ text, caseIgnorableRanges.holds character = true
  · rw [reachesCased_append_of_skipped ignorable, reachesCased_slash,
      reachesCased_of_skipped ignorable]
  · exact reachesCased_append_of_kept ignorable _

theorem lowercaseBetween_append_slash (before text rest : List Char) (character : Char) :
    lowercaseBetween before (text ++ '/' :: rest) character =
      lowercaseBetween before text character :=
  lowercaseBetween_congr fun _ _ => reachesCased_append_slash text rest

theorem lowercaseBetween_slash (before rest : List Char) :
    lowercaseBetween before rest '/' = ['/'] := rfl

theorem lowercaseAfter_behind_slash (before others text : List Char) :
    lowercaseAfter (before ++ '/' :: others) text = lowercaseAfter before text := by
  induction text generalizing before with
  | nil => rfl
  | cons character text ih =>
    have alone : lowercaseBetween (before ++ '/' :: others) text character =
        lowercaseBetween before text character := by
      simp only [lowercaseBetween, reachesCased_append_slash]
    rw [lowercaseAfter_cons, lowercaseAfter_cons, alone]
    exact congrArg _ (ih (character :: before))

theorem lowercaseAfter_append_slash (before left right : List Char) :
    lowercaseAfter before (left ++ '/' :: right) =
      lowercaseAfter before left ++ '/' :: lowercase right := by
  induction left generalizing before with
  | nil =>
    rw [List.nil_append, lowercaseAfter_cons, lowercaseBetween_slash]
    exact congrArg _ (lowercaseAfter_behind_slash [] before right)
  | cons character left ih =>
    rw [List.cons_append, lowercaseAfter_cons, lowercaseAfter_cons, lowercaseBetween_append_slash,
      ih, List.append_assoc]

theorem lowercase_append_slash (left right : List Char) :
    lowercase (left ++ '/' :: right) = lowercase left ++ '/' :: lowercase right :=
  lowercaseAfter_append_slash [] left right

private theorem runs_beyond_slash :
    ∀ run ∈ lowercaseRuns, ('/'.toNat : Int) < run.1 + run.2.2.2 := by
  decide +kernel

private theorem slash_ne_ofNat {code : Nat} (beyond : '/'.toNat < code) :
    '/' ≠ Char.ofNat code := by
  intro same
  by_cases valid : code.isValidChar
  · have own : '/' = Char.ofNatAux code valid := same.trans (dif_pos valid)
    have codes : '/'.toNat = code := congrArg Char.toNat own
    omega
  · have zero : '/' = '\x00' := same.trans (dif_neg valid)
    cases zero

private theorem eq_slash_of_toLower {character : Char} (same : '/' = character.toLower) :
    '/' = character := by
  have code : '/'.toNat = 47 := rfl
  rcases eq_or_capital_of_toLower same.symm with small | ⟨low, _, sum⟩
  · exact small.symm
  · omega

private theorem eq_slash_of_mem_lowercaseAlone {character : Char}
    (member : '/' ∈ lowercaseAlone character) : '/' = character := by
  unfold lowercaseAlone at member
  split at member
  · exact eq_slash_of_toLower (List.mem_singleton.mp member)
  · split at member
    · exact absurd member (by decide)
    · split at member
      · rename_i first last step distance found
        have applies := List.find?_some found
        simp only [Bool.and_eq_true, decide_eq_true_eq] at applies
        have beyond := runs_beyond_slash _ (List.mem_of_find?_eq_some found)
        refine absurd (List.mem_singleton.mp member) (slash_ne_ofNat ?_)
        dsimp only at beyond
        omega
      · exact List.mem_singleton.mp member

theorem slash_mem_lowercaseBetween_iff (before rest : List Char) (character : Char) :
    '/' ∈ lowercaseBetween before rest character ↔ '/' = character := by
  constructor
  · unfold lowercaseBetween
    split
    · intro member
      refine absurd (List.mem_singleton.mp member) ?_
      split <;> decide
    · exact eq_slash_of_mem_lowercaseAlone
  · rintro rfl
    exact List.mem_singleton_self '/'

theorem slash_mem_lowercaseAfter_iff (before text : List Char) :
    '/' ∈ lowercaseAfter before text ↔ '/' ∈ text := by
  induction text generalizing before with
  | nil => rfl
  | cons character text ih =>
    rw [lowercaseAfter_cons, List.mem_append, slash_mem_lowercaseBetween_iff, ih, List.mem_cons]

theorem slash_mem_lowercase_iff (text : List Char) : '/' ∈ lowercase text ↔ '/' ∈ text :=
  slash_mem_lowercaseAfter_iff [] text

/-- The first slash behind a text without one is not in that text. -/
private theorem exists_append_of_slash_not_mem {own others left right : List Char}
    (absent : '/' ∉ own) (split : own ++ others = left ++ '/' :: right) :
    ∃ more, left = own ++ more ∧ others = more ++ '/' :: right := by
  induction own generalizing left with
  | nil => exact ⟨left, rfl, split⟩
  | cons character own ih =>
    rw [List.mem_cons, not_or] at absent
    cases left with
    | nil => exact absurd (List.cons.inj split).1.symm absent.1
    | cons first left =>
      obtain ⟨rfl, rest⟩ := List.cons.inj split
      obtain ⟨more, rfl, rfl⟩ := ih absent.2 rest
      exact ⟨more, rfl, rfl⟩

private theorem lowercaseAfter_eq_append_slash {before text left right : List Char}
    (split : lowercaseAfter before text = left ++ '/' :: right) :
    ∃ front back, text = front ++ '/' :: back ∧ lowercaseAfter before front = left ∧
      lowercase back = right := by
  induction text generalizing before left with
  | nil => simp [lowercaseAfter] at split
  | cons character text ih =>
    rw [lowercaseAfter_cons] at split
    by_cases isSlash : '/' = character
    · subst isSlash
      cases left with
      | nil =>
        refine ⟨[], text, rfl, rfl, ?_⟩
        rw [← (List.cons.inj split).2]
        exact (lowercaseAfter_behind_slash [] before text).symm
      | cons first left =>
        obtain ⟨rfl, rest⟩ := List.cons.inj split
        obtain ⟨front, back, rfl, rfl, rfl⟩ := ih rest
        exact ⟨'/' :: front, back, rfl, rfl, rfl⟩
    · have absent : '/' ∉ lowercaseBetween before text character := by
        rwa [slash_mem_lowercaseBetween_iff]
      obtain ⟨more, rfl, rest⟩ := exists_append_of_slash_not_mem absent split
      obtain ⟨front, back, rfl, rfl, rfl⟩ := ih rest
      refine ⟨character :: front, back, rfl, ?_, rfl⟩
      rw [lowercaseAfter_cons, lowercaseBetween_append_slash]

/-- A slash among small letters is one among the letters that they come from. -/
theorem lowercase_eq_append_slash_iff {text left right : List Char} :
    lowercase text = left ++ '/' :: right ↔
      ∃ front back, text = front ++ '/' :: back ∧ lowercase front = left ∧
        lowercase back = right := by
  constructor
  · exact lowercaseAfter_eq_append_slash
  · rintro ⟨front, back, rfl, rfl, rfl⟩
    exact lowercase_append_slash front back

/-- A text is what comes before its first slash, and the rest. -/
theorem exists_before_slash (text : List Char) :
    ∃ name below, text = name ++ below ∧ '/' ∉ name ∧
      (below = [] ∨ ∃ rest, below = '/' :: rest) := by
  induction text with
  | nil => exact ⟨[], [], rfl, List.not_mem_nil, .inl rfl⟩
  | cons character text ih =>
    by_cases isSlash : '/' = character
    · subst isSlash
      exact ⟨[], '/' :: text, rfl, List.not_mem_nil, .inr ⟨text, rfl⟩⟩
    · obtain ⟨name, below, rfl, absent, ends⟩ := ih
      refine ⟨character :: name, below, rfl, ?_, ends⟩
      rw [List.mem_cons, not_or]
      exact ⟨isSlash, absent⟩

/-- A text that is empty or ends in a slash does not change the small letters behind it. -/
theorem lowercase_append_of_closed {front : List Char}
    (closed : front = [] ∨ ∃ before, front = before ++ ['/']) (rest : List Char) :
    lowercase (front ++ rest) = lowercase front ++ lowercase rest := by
  rcases closed with rfl | ⟨before, rfl⟩
  · rfl
  · rw [List.append_assoc, List.singleton_append, lowercase_append_slash, lowercase_append_slash,
      List.append_assoc]
    rfl

private theorem prefix_append_slash_iff {word name rest : List Char} (absent : '/' ∉ word) :
    word <+: name ++ '/' :: rest ↔ word <+: name := by
  constructor
  · intro leads
    rcases List.prefix_or_prefix_of_prefix leads (List.prefix_append name ('/' :: rest)) with
      within | ⟨more, rfl⟩
    · exact within
    · rw [List.prefix_append_right_inj] at leads
      cases more with
      | nil => simp
      | cons character more =>
        rw [List.cons_prefix_cons] at leads
        simp [leads.1] at absent
  · exact fun leads => leads.trans (List.prefix_append name _)

/-- Whether a text begins with a word that has no slash shows before its first slash. -/
theorem lowercase_prefix_append_iff {word name below : List Char} (absent : '/' ∉ word)
    (ends : below = [] ∨ ∃ rest, below = '/' :: rest) :
    lowercase word <+: lowercase (name ++ below) ↔ lowercase word <+: lowercase name := by
  rcases ends with rfl | ⟨rest, rfl⟩
  · rw [List.append_nil]
  · rw [lowercase_append_slash]
    apply prefix_append_slash_iff
    rwa [slash_mem_lowercase_iff]

theorem length_le_lowercaseAfter (before text : List Char) :
    text.length ≤ (lowercaseAfter before text).length := by
  induction text generalizing before with
  | nil => exact Nat.zero_le _
  | cons character text ih =>
    have some : 1 ≤ (lowercaseBetween before text character).length := by
      unfold lowercaseBetween lowercaseAlone
      split
      · simp
      · split
        · simp
        · split
          · simp
          · split <;> simp
    have others := ih (character :: before)
    rw [lowercaseAfter_cons, List.length_append, List.length_cons]
    omega

/-- Small letters are at least as many as the letters that they come from. -/
theorem length_le_lowercase (text : List Char) : text.length ≤ (lowercase text).length :=
  length_le_lowercaseAfter [] text

theorem lowercase_eq_nil_iff {text : List Char} : lowercase text = [] ↔ text = [] := by
  constructor
  · intro empty
    have atMost := length_le_lowercase text
    rw [empty] at atMost
    exact List.eq_nil_of_length_eq_zero (Nat.le_zero.mp atMost)
  · rintro rfl
    rfl

theorem getLast?_lowercase_eq_slash_iff {text : List Char} :
    (lowercase text).getLast? = some '/' ↔ text.getLast? = some '/' := by
  simp only [List.getLast?_eq_some_iff, lowercase_eq_append_slash_iff, lowercase_eq_nil_iff]
  constructor
  · rintro ⟨_, front, _, rfl, _, rfl⟩
    exact ⟨front, rfl⟩
  · rintro ⟨front, rfl⟩
    exact ⟨_, front, _, rfl, rfl, rfl⟩

end Curator.Text
