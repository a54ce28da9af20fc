import Curator.Feed.PublicationDate
import Curator.Proofs.Text.Pieces
import Curator.Proofs.Text.Trim
import Curator.Proofs.Time.Digits

/-! What stands around a date of publication. Dates begin and end with letters or digits; the white
space around one, a comment behind it and the name of a zone at its end can be told from it and are
left out before it is read. -/
namespace Curator.PublicationDate

open InternetDate (padded)

variable {text : List Char}

/-- A text begins with a letter or a digit. -/
def StartsBare (text : List Char) : Prop :=
  ∃ first, text.head? = some first ∧ first.isAlphanum = true

/-- A text ends with a character of a kind. -/
def EndsIn (isMember : Char → Bool) (text : List Char) : Prop :=
  ∃ last, text.getLast? = some last ∧ isMember last = true

theorem StartsBare.append (bare : StartsBare text) (rest : List Char) :
    StartsBare (text ++ rest) := by
  obtain ⟨first, found, shown⟩ := bare
  exact ⟨first, by rw [List.head?_append, found]; rfl, shown⟩

theorem EndsIn.append {isMember : Char → Bool} (ends : EndsIn isMember text) (front : List Char) :
    EndsIn isMember (front ++ text) := by
  obtain ⟨last, found, shown⟩ := ends
  exact ⟨last, by rw [List.getLast?_append, found]; rfl, shown⟩

theorem EndsIn.cons {isMember : Char → Bool} (ends : EndsIn isMember text) (first : Char) :
    EndsIn isMember (first :: text) :=
  ends.append [first]

theorem EndsIn.isAlphanum (ends : EndsIn Char.isDigit text) : EndsIn Char.isAlphanum text := by
  obtain ⟨last, found, digit⟩ := ends
  exact ⟨last, found, by rw [Char.isAlphanum, digit, Bool.or_true]⟩

theorem startsBare_padded (width number : Nat) : StartsBare (padded width number) := by
  obtain ⟨digit, others, printed, isDigit⟩ := InternetDate.exists_padded_eq_cons width number
  exact ⟨digit, by rw [printed]; rfl, by rw [Char.isAlphanum, isDigit, Bool.or_true]⟩

theorem endsIn_padded (width number : Nat) : EndsIn Char.isDigit (padded width number) := by
  obtain ⟨digit, others, printed, _⟩ := InternetDate.exists_padded_eq_cons width number
  have shown : padded width number ≠ [] := by simp [printed]
  exact ⟨_, List.getLast?_eq_some_getLast shown,
    InternetDate.isDigit_of_mem_padded (List.getLast_mem shown)⟩

theorem isWhiteSpace_of_isAlphanum {character : Char} (shown : character.isAlphanum = true) :
    Text.isWhiteSpace character = false := by
  rcases Bool.or_eq_true_iff.mp shown with letter | digit
  · exact Text.isWhiteSpace_of_isAlpha letter
  · exact Text.isWhiteSpace_of_isDigit digit

theorem isDigit_of_isAlpha {character : Char} (letter : character.isAlpha = true) :
    character.isDigit = false := by
  rw [← Bool.not_eq_true]
  intro digit
  have letterBounds := Text.toNat_bounds_of_isAlpha letter
  have digitBounds := Text.toNat_bounds_of_isDigit digit
  omega

/-- A text begins and ends with letters or digits. -/
structure IsBare (text : List Char) : Prop where
  starts : StartsBare text
  ends : EndsIn Char.isAlphanum text

theorem IsBare.ne_nil (bare : IsBare text) : text ≠ [] := by
  rintro rfl
  obtain ⟨_, ⟨⟩, _⟩ := bare.starts

theorem IsBare.isTrimmed (bare : IsBare text) : Text.IsTrimmed text := by
  obtain ⟨first, head, firstShown⟩ := bare.starts
  obtain ⟨last, tail, lastShown⟩ := bare.ends
  constructor
  · intro other found
    obtain rfl := Option.some.inj (head.symm.trans found)
    exact isWhiteSpace_of_isAlphanum firstShown
  · intro other found
    obtain rfl := Option.some.inj (tail.symm.trans found)
    exact isWhiteSpace_of_isAlphanum lastShown

/-- No comment begins within a text. -/
def IsPlainComment (text : List Char) : Prop :=
  ¬ [' ', '('] <:+: text

instance (text : List Char) : Decidable (IsPlainComment text) :=
  inferInstanceAs (Decidable (¬ _))

theorem beforeLastComment?_eq_none (plain : IsPlainComment text) :
    beforeLastComment? text = none := by
  induction text with
  | nil => rfl
  | cons character rest ih =>
    rw [IsPlainComment, List.infix_cons_iff, not_or] at plain
    obtain ⟨notHere, plainRest⟩ := plain
    rw [beforeLastComment?, ih plainRest]
    refine if_neg fun opens => notHere ?_
    simp only [Bool.and_eq_true, decide_eq_true_eq, beq_iff_eq] at opens
    obtain ⟨rfl, first⟩ := opens
    obtain ⟨others, rfl⟩ := List.head?_eq_some_iff.mp first
    exact ⟨others, rfl⟩

theorem beforeLastComment?_append {inside : List Char} (plain : IsPlainComment ('(' :: inside))
    (front : List Char) : beforeLastComment? (front ++ ' ' :: '(' :: inside) = some front := by
  induction front with
  | nil =>
    rw [List.nil_append, beforeLastComment?, beforeLastComment?_eq_none plain]
    rfl
  | cons character front ih => rw [List.cons_append, beforeLastComment?, ih]

theorem isPlainComment_parenthesized {comment : List Char} (plain : IsPlainComment comment) :
    IsPlainComment ('(' :: (comment ++ [')'])) := by
  rw [IsPlainComment, List.infix_cons_iff, List.infix_concat_iff]
  rintro (⟨others, same⟩ | ⟨others, same⟩ | inside)
  · cases same
  · have last := congrArg List.getLast? same
    simp at last
  · exact plain inside

theorem withoutComment_append {comment : List Char} (plain : IsPlainComment comment)
    (front : List Char) : withoutComment (front ++ ' ' :: '(' :: (comment ++ [')'])) =
      Text.trimEnd front := by
  have last : (front ++ ' ' :: '(' :: (comment ++ [')'])).getLast? = some ')' := by
    simp [List.getLast?_cons]
  rw [withoutComment, if_pos last, beforeLastComment?_append (isPlainComment_parenthesized plain)]

theorem withoutComment_of_isBare (bare : IsBare text) : withoutComment text = text := by
  obtain ⟨last, found, shown⟩ := bare.ends
  refine if_neg fun parenthesis => ?_
  obtain rfl := Option.some.inj (found.symm.trans parenthesis)
  cases shown

/-- What may stand around a date: white space, and a comment in parentheses behind a blank. -/
structure Surroundings where
  before : List Char
  /-- What stands between the date and the blank before the comment. -/
  gap : List Char
  comment : Option (List Char)
  after : List Char
  isBlank_before : Text.IsBlank before
  isBlank_gap : Text.IsBlank gap
  isBlank_after : Text.IsBlank after
  isPlain_comment : ∀ text ∈ comment, IsPlainComment text

namespace Surroundings

def commentText (surroundings : Surroundings) : List Char :=
  match surroundings.comment with
  | none => []
  | some text => surroundings.gap ++ ' ' :: '(' :: (text ++ [')'])

/-- A date with what stands around it. -/
def around (surroundings : Surroundings) (date : List Char) : List Char :=
  surroundings.before ++ (date ++ surroundings.commentText) ++ surroundings.after

/-- What stands around a date is taken away before it is read. -/
theorem withoutComment_trim_around (surroundings : Surroundings) {date : List Char}
    (bare : IsBare date) : withoutComment (Text.trim (surroundings.around date)) = date := by
  unfold around commentText
  cases known : surroundings.comment with
  | none =>
    rw [List.append_nil, Text.trim_around bare.isTrimmed bare.ne_nil surroundings.isBlank_before
      surroundings.isBlank_after, withoutComment_of_isBare bare]
  | some text =>
    have trimmed : Text.IsTrimmed (date ++ (surroundings.gap ++ ' ' :: '(' :: (text ++ [')']))) :=
      { head := by
          obtain ⟨first, found, shown⟩ := bare.starts.append
            (surroundings.gap ++ ' ' :: '(' :: (text ++ [')']))
          intro other head
          obtain rfl := Option.some.inj (found.symm.trans head)
          exact isWhiteSpace_of_isAlphanum shown
        last := by
          intro last found
          obtain rfl : ')' = last := by simpa [List.getLast?_cons] using found
          decide }
    rw [Text.trim_around trimmed (by simp) surroundings.isBlank_before surroundings.isBlank_after,
      ← List.append_assoc, withoutComment_append (surroundings.isPlain_comment text known),
      Text.trimEnd_append_of_isBlank _ surroundings.isBlank_gap,
      Text.trimEnd_eq_self bare.isTrimmed.last]

end Surroundings

/-- Where the last character is no letter, there is no name to leave out. -/
theorem withoutZoneName_of_endsIn (ends : EndsIn Char.isDigit text) :
    withoutZoneName text = text := by
  obtain ⟨last, found, digit⟩ := ends
  unfold withoutZoneName
  split
  · rename_i front word split
    refine if_neg fun named => ?_
    simp only [Bool.and_eq_true, Bool.not_eq_true', List.isEmpty_eq_false_iff] at named
    obtain ⟨shown, letters⟩ := named
    obtain ⟨first, others, rfl⟩ := List.exists_cons_of_ne_nil shown
    rw [Text.splitLast?_eq_some split, List.getLast?_append] at found
    have member : last ∈ first :: others := by
      refine List.mem_of_getLast? ?_
      simpa [List.getLast?_cons] using found
    have letter := List.all_eq_true.mp letters last member
    exact absurd digit (by rw [isDigit_of_isAlpha letter]; decide)
  · rfl

/-- A last word of letters is left out with the blank before it. -/
theorem withoutZoneName_append {name : List Char} (shown : name ≠ [])
    (letters : name.all Char.isAlpha = true) (bare : IsBare text) :
    withoutZoneName (text ++ ' ' :: name) = text := by
  have noBlank : ' ' ∉ name := fun member =>
    absurd (List.all_eq_true.mp letters ' ' member) (by decide)
  rw [withoutZoneName, Text.splitLast?_append_cons noBlank]
  simp only [List.isEmpty_eq_false_iff.mpr shown, letters, Bool.not_false,
    Bool.and_self, if_true]
  exact Text.trimEnd_eq_self bare.isTrimmed.last

end Curator.PublicationDate
