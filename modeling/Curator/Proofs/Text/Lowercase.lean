import Curator.Text.Lowercase

/-! Lower case of the beginning of a text. Only a capital sigma looks at what follows, past all that
context skips; so the small letters of a text begin with those of its beginning, unless this ends in
such a sigma and the word goes on behind it. -/
namespace Curator.Text

/-- A text after `before`, which is given last character first, whose last letter is a capital sigma
behind another letter; all that follows the sigma is skipped by context. -/
def EndsInSigma (before text : List Char) : Prop :=
  ∃ word sigma skipped, text = word ++ sigma :: skipped ∧ sigma.toNat = 0x3A3 ∧
    reachesCased (word.reverse ++ before) = true ∧
    ∀ character ∈ skipped, caseIgnorableRanges.holds character = true

theorem endsInSigma_cons (before rest : List Char) (character : Char) :
    EndsInSigma before (character :: rest) ↔
      (character.toNat = 0x3A3 ∧ reachesCased before = true ∧
        ∀ skipped ∈ rest, caseIgnorableRanges.holds skipped = true) ∨
      EndsInSigma (character :: before) rest := by
  constructor
  · rintro ⟨word, sigma, skipped, split, isSigma, inWord, ignorable⟩
    cases word with
    | nil =>
      obtain ⟨rfl, rfl⟩ := List.cons.inj split
      exact .inl ⟨isSigma, inWord, ignorable⟩
    | cons first word =>
      obtain ⟨rfl, rfl⟩ := List.cons.inj split
      exact .inr ⟨word, sigma, skipped, rfl, isSigma, by simpa using inWord, ignorable⟩
  · rintro (⟨isSigma, inWord, ignorable⟩ |
      ⟨word, sigma, skipped, rfl, isSigma, inWord, ignorable⟩)
    · exact ⟨[], character, rest, rfl, isSigma, inWord, ignorable⟩
    · exact ⟨character :: word, sigma, skipped, rfl, isSigma, by simpa using inWord, ignorable⟩

instance decidableEndsInSigma (before : List Char) :
    (text : List Char) → Decidable (EndsInSigma before text)
  | [] => .isFalse (by rintro ⟨_, _, _, split, _⟩; simp at split)
  | character :: rest =>
    -- Along the text: there is an instance for all characters too, which tries every one of them.
    have := List.decidableBAll (fun skipped => caseIgnorableRanges.holds skipped = true) rest
    have := decidableEndsInSigma (character :: before) rest
    decidable_of_iff' _ (endsInSigma_cons before rest character)

theorem reachesCased_cons (character : Char) (rest : List Char) :
    reachesCased (character :: rest) =
      if caseIgnorableRanges.holds character = true then reachesCased rest
      else casedRanges.holds character := by
  rw [reachesCased, List.dropWhile_cons]
  by_cases skipped : caseIgnorableRanges.holds character = true
  · rw [if_pos skipped, if_pos skipped, reachesCased]
  · rw [if_neg skipped, if_neg skipped]

theorem reachesCased_append_of_skipped {skipped : List Char}
    (ignorable : ∀ character ∈ skipped, caseIgnorableRanges.holds character = true)
    (rest : List Char) : reachesCased (skipped ++ rest) = reachesCased rest := by
  rw [reachesCased, List.dropWhile_append_of_pos ignorable, reachesCased]

theorem reachesCased_of_skipped {skipped : List Char}
    (ignorable : ∀ character ∈ skipped, caseIgnorableRanges.holds character = true) :
    reachesCased skipped = false := by
  simpa [reachesCased] using reachesCased_append_of_skipped ignorable []

theorem reachesCased_append_of_kept {text : List Char}
    (kept : ¬ ∀ character ∈ text, caseIgnorableRanges.holds character = true)
    (rest : List Char) : reachesCased (text ++ rest) = reachesCased text := by
  induction text with
  | nil => simp at kept
  | cons character text ih =>
    rw [List.cons_append, reachesCased_cons, reachesCased_cons]
    split
    · rename_i skipped
      exact ih fun ignorable => kept (List.forall_mem_cons.mpr ⟨skipped, ignorable⟩)
    · rfl

def lowercaseBetween (before rest : List Char) (character : Char) : List Char :=
  if character.toNat = 0x3A3 then
    [if reachesCased before && !reachesCased rest then Char.ofNat 0x3C2 else Char.ofNat 0x3C3]
  else lowercaseAlone character

theorem lowercaseAfter_cons (before rest : List Char) (character : Char) :
    lowercaseAfter before (character :: rest) =
      lowercaseBetween before rest character ++ lowercaseAfter (character :: before) rest := rfl

theorem lowercaseBetween_congr {before rest other : List Char} {character : Char}
    (same : character.toNat = 0x3A3 → reachesCased before = true →
      reachesCased rest = reachesCased other) :
    lowercaseBetween before rest character = lowercaseBetween before other character := by
  unfold lowercaseBetween
  split
  · rename_i isSigma
    cases inWord : reachesCased before with
    | false => rfl
    | true => rw [same isSigma inWord]
  · rfl

/-- The small letters of a text begin with those of its beginning, unless that ends in a capital
sigma and the word goes on. -/
theorem lowercaseAfter_append_iff (before text rest : List Char) :
    lowercaseAfter before text <+: lowercaseAfter before (text ++ rest) ↔
      ¬ (EndsInSigma before text ∧ reachesCased rest = true) := by
  induction text generalizing before with
  | nil =>
    constructor
    · rintro _ ⟨⟨word, sigma, skipped, split, _⟩, _⟩
      simp at split
    · exact fun _ => List.nil_prefix
  | cons character text ih =>
    rw [List.cons_append, lowercaseAfter_cons, lowercaseAfter_cons, endsInSigma_cons]
    by_cases cut : (character.toNat = 0x3A3 ∧ reachesCased before = true ∧
        ∀ skipped ∈ text, caseIgnorableRanges.holds skipped = true) ∧ reachesCased rest = true
    · -- The beginning ends in a final sigma, which is none where the word goes on.
      obtain ⟨⟨isSigma, inWord, ignorable⟩, goesOn⟩ := cut
      have final : lowercaseBetween before text character = [Char.ofNat 0x3C2] := by
        simp [lowercaseBetween, isSigma, inWord, reachesCased_of_skipped ignorable]
      have medial : lowercaseBetween before (text ++ rest) character = [Char.ofNat 0x3C3] := by
        simp [lowercaseBetween, isSigma, reachesCased_append_of_skipped ignorable, goesOn]
      rw [final, medial, List.singleton_append, List.singleton_append, List.cons_prefix_cons]
      constructor
      · rintro ⟨same, _⟩
        exact absurd same (by decide)
      · intro excluded
        exact absurd ⟨.inl ⟨isSigma, inWord, ignorable⟩, goesOn⟩ excluded
    · have same : lowercaseBetween before text character =
          lowercaseBetween before (text ++ rest) character := by
        apply lowercaseBetween_congr
        intro isSigma inWord
        by_cases ignorable : ∀ skipped ∈ text, caseIgnorableRanges.holds skipped = true
        · have stops : reachesCased rest = false := by
            simpa using fun goesOn => cut ⟨⟨isSigma, inWord, ignorable⟩, goesOn⟩
          rw [reachesCased_append_of_skipped ignorable, reachesCased_of_skipped ignorable, stops]
        · rw [reachesCased_append_of_kept ignorable]
      rw [← same, List.prefix_append_right_inj, ih]
      constructor
      · rintro later ⟨here | ends, goesOn⟩
        · exact cut ⟨here, goesOn⟩
        · exact later ⟨ends, goesOn⟩
      · rintro excluded ⟨ends, goesOn⟩
        exact excluded ⟨.inr ends, goesOn⟩

end Curator.Text
