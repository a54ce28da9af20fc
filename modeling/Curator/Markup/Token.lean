import Curator.Encoding.Octets
import Curator.Text.Basic

/-! A document cut into tags, references and text between them. The cut needs no decoding: it looks
at marks of ASCII only. What cannot be cut further ends the document with a token of its own. -/
namespace Curator.Markup

/-- A piece of a document. -/
inductive Token where
  | text (octets : Octets)
  /-- What stands between the ampersand and the semicolon. -/
  | reference (name : Octets)
  | verbatim (octets : Octets)
  /-- The inside of a start tag; an element without content closes itself. -/
  | start (inside : Octets) (isEmpty : Bool)
  | finish (name : Octets)
  /-- The inside of the declaration at the top of a document. -/
  | declaration (inside : Octets)
  /-- A comment, an instruction or a document type. -/
  | aside
  | malformed
deriving DecidableEq, Repr

namespace Token

/-- Blanks between the parts of a tag. -/
def isBlank (octet : Char) : Bool :=
  octet == ' ' || octet == '\t' || octet == '\n' || octet == '\r'

/-- What stands before the first occurrence of a mark, and what follows it. -/
def cutAt? (mark : Octets) : Octets → Option (Octets × Octets)
  | [] => none
  | octet :: rest =>
    match Text.after? mark (octet :: rest) with
    | some behind => some ([], behind)
    | none => (cutAt? mark rest).map fun (before, behind) => (octet :: before, behind)

/-- The quotes that are open behind a character. -/
def quoteBehind (quote : Option Char) (octet : Char) : Option Char :=
  match quote with
  | some mark => if octet = mark then none else some mark
  | none => if octet = '"' ∨ octet = '\'' then some octet else none

/-- The inside of a tag up to its closing bracket, which does not stand in quotes. -/
def cutTag? (quote : Option Char) : Octets → Option (Octets × Octets)
  | [] => none
  | octet :: rest =>
    if octet = '>' ∧ quote = none then some ([], rest)
    else
      (cutTag? (quoteBehind quote octet) rest).map fun (inside, behind) => (octet :: inside, behind)

inductive TypePlace where
  /-- Before its declarations, perhaps in quotes. -/
  | before (quote : Option Char)
  | among
  /-- In one of its declarations, perhaps in quotes. -/
  | declaration (quote : Option Char)
  | comment
  | instruction
  | behind
deriving DecidableEq, Repr

/-- The place behind a character that begins and ends nothing with its neighbours. -/
def TypePlace.next (place : TypePlace) (octet : Char) : TypePlace :=
  match place with
  | .before none => if octet = '[' then .among else .before (quoteBehind none octet)
  | .before quote => .before (quoteBehind quote octet)
  | .among => if octet = ']' then .behind else .among
  | .declaration none => if octet = '>' then .among else .declaration (quoteBehind none octet)
  | .declaration quote => .declaration (quoteBehind quote octet)
  | place => place

/-- What follows the closing bracket of a document type, from a place in it on. -/
def afterType? : TypePlace → Octets → Option Octets
  | .before none, '>' :: rest => some rest
  | .behind, '>' :: rest => some rest
  | .among, '<' :: '!' :: '-' :: '-' :: rest => afterType? .comment rest
  | .among, '<' :: '!' :: rest => afterType? (.declaration none) rest
  | .among, '<' :: '?' :: rest => afterType? .instruction rest
  | .comment, '-' :: '-' :: '>' :: rest => afterType? .among rest
  | .instruction, '?' :: '>' :: rest => afterType? .among rest
  | place, octet :: rest => afterType? (place.next octet) rest
  | _, [] => none

def trimEnd (octets : Octets) : Octets :=
  (octets.reverse.dropWhile isBlank).reverse

/-- The token of a tag with a given inside. Blanks behind the name in a closing tag do not count. -/
def ofTag (inside : Octets) : Token :=
  match inside with
  | '/' :: name => .finish (if name.all isBlank then name else trimEnd name)
  | inside =>
    if inside.getLast? = some '/' then .start inside.dropLast true else .start inside false

/-- The token of an instruction with a given inside, and the declaration among them. -/
def ofInstruction (inside : Octets) : Token :=
  match inside with
  | 'x' :: 'm' :: 'l' :: rest =>
    match rest with
    | [] => .declaration []
    | octet :: _ => if isBlank octet then .declaration rest else .aside
  | _ => .aside

/-- The token behind a bracket and an exclamation mark, and the rest of the document. -/
def readDeclaration? (octets : Octets) : Option (Token × Octets) :=
  match octets with
  | '-' :: '-' :: rest => (cutAt? "-->".toList rest).map fun (_, behind) => (.aside, behind)
  | '[' :: rest =>
    if rest.take 6 = "CDATA[".toList then
      (cutAt? "]]>".toList (rest.drop 6)).map fun (inside, behind) => (.verbatim inside, behind)
    else none
  | octets =>
    if Text.equalsIgnoringCase (octets.take 7) "doctype".toList then
      if ((octets.drop 7).dropWhile isBlank).head? = some '>' then none
      else (afterType? (.before none) (octets.drop 7)).map fun behind => (.aside, behind)
    else none

/-- The token behind an opening bracket, and the rest of the document. -/
def readMarkup? (octets : Octets) : Option (Token × Octets) :=
  match octets with
  | '!' :: rest => readDeclaration? rest
  | '?' :: rest =>
    if rest.head? = some '>' then none
    else (cutAt? "?>".toList rest).map fun (inside, behind) => (ofInstruction inside, behind)
  | octets => (cutTag? none octets).map fun (inside, behind) => (ofTag inside, behind)

def isInReference (octet : Char) : Bool :=
  octet != ';' && octet != '&' && octet != '<'

/-- The reference behind an ampersand, and the rest of the document. -/
def readReference? (octets : Octets) : Option (Token × Octets) :=
  match octets.dropWhile isInReference with
  | ';' :: behind => some (.reference (octets.takeWhile isInReference), behind)
  | _ => none

def isInText (octet : Char) : Bool :=
  octet != '<' && octet != '&'

theorem cutAt?_shorter {mark octets before behind : Octets}
    (found : cutAt? mark octets = some (before, behind)) : behind.length ≤ octets.length := by
  induction octets generalizing before with
  | nil => simp [cutAt?] at found
  | cons octet rest ih =>
    unfold cutAt? at found
    split at found
    · rename_i here
      have joined := congrArg List.length (Text.after?_eq_some_iff.mp here)
      simp only [Option.some.injEq, Prod.mk.injEq] at found
      obtain ⟨_, rfl⟩ := found
      simp only [List.length_append] at joined
      omega
    · simp only [Option.map_eq_some_iff, Prod.mk.injEq, Prod.exists] at found
      obtain ⟨_, _, inner, _, rfl⟩ := found
      exact Nat.le_trans (ih inner) (by simp)

theorem cutTag?_shorter {quote : Option Char} {octets inside behind : Octets}
    (found : cutTag? quote octets = some (inside, behind)) : behind.length ≤ octets.length := by
  induction octets generalizing quote inside with
  | nil => simp [cutTag?] at found
  | cons octet rest ih =>
    unfold cutTag? at found
    split at found
    · simp only [Option.some.injEq, Prod.mk.injEq] at found
      obtain ⟨_, rfl⟩ := found
      simp
    · simp only [Option.map_eq_some_iff, Prod.mk.injEq, Prod.exists] at found
      obtain ⟨_, _, inner, _, rfl⟩ := found
      exact Nat.le_trans (ih inner) (by simp)

theorem afterType?_shorter {place : TypePlace} {octets behind : Octets}
    (found : afterType? place octets = some behind) : behind.length ≤ octets.length := by
  fun_induction afterType? place octets <;> simp_all <;> omega

theorem readDeclaration?_shorter {octets behind : Octets} {token : Token}
    (found : readDeclaration? octets = some (token, behind)) : behind.length ≤ octets.length := by
  unfold readDeclaration? at found
  split at found
  · simp only [Option.map_eq_some_iff, Prod.mk.injEq, Prod.exists] at found
    obtain ⟨_, _, inner, _, rfl⟩ := found
    exact Nat.le_trans (cutAt?_shorter inner) (by simp; omega)
  · split at found
    · simp only [Option.map_eq_some_iff, Prod.mk.injEq, Prod.exists] at found
      obtain ⟨_, _, inner, _, rfl⟩ := found
      exact Nat.le_trans (cutAt?_shorter inner) (by simp; omega)
    · exact absurd found (by simp)
  · split at found
    · split at found
      · exact absurd found (by simp)
      · simp only [Option.map_eq_some_iff, Prod.mk.injEq] at found
        obtain ⟨_, inner, _, rfl⟩ := found
        exact Nat.le_trans (afterType?_shorter inner) (by simp)
    · exact absurd found (by simp)

theorem readMarkup?_shorter {octets behind : Octets} {token : Token}
    (found : readMarkup? octets = some (token, behind)) : behind.length ≤ octets.length := by
  unfold readMarkup? at found
  split at found
  · exact Nat.le_trans (readDeclaration?_shorter found) (by simp)
  · split at found
    · exact absurd found (by simp)
    · simp only [Option.map_eq_some_iff, Prod.mk.injEq, Prod.exists] at found
      obtain ⟨_, _, inner, _, rfl⟩ := found
      exact Nat.le_trans (cutAt?_shorter inner) (by simp)
  · simp only [Option.map_eq_some_iff, Prod.mk.injEq, Prod.exists] at found
    obtain ⟨_, _, inner, _, rfl⟩ := found
    exact cutTag?_shorter inner

theorem readReference?_shorter {octets behind : Octets} {token : Token}
    (found : readReference? octets = some (token, behind)) : behind.length ≤ octets.length := by
  unfold readReference? at found
  split at found
  · rename_i rest stop
    simp only [Option.some.injEq, Prod.mk.injEq] at found
    obtain ⟨_, rfl⟩ := found
    have sizes := (List.dropWhile_sublist isInReference (l := octets)).length_le
    rw [stop] at sizes
    simp only [List.length_cons] at sizes
    omega
  · exact absurd found (by simp)

def all (octets : Octets) : List Token :=
  match octets with
  | [] => []
  | '<' :: rest =>
    match _found : readMarkup? rest with
    | some (token, behind) => token :: all behind
    | none => [.malformed]
  | '&' :: rest =>
    match _found : readReference? rest with
    | some (token, behind) => token :: all behind
    | none => [.malformed]
  | octet :: rest =>
    .text (octet :: rest.takeWhile isInText) :: all (rest.dropWhile isInText)
termination_by octets.length
decreasing_by
  · have shorter := readMarkup?_shorter _found
    simp only [List.length_cons]
    omega
  · have shorter := readReference?_shorter _found
    simp only [List.length_cons]
    omega
  · have shorter := (List.dropWhile_sublist isInText (l := rest)).length_le
    simp only [List.length_cons]
    omega

end Token

end Curator.Markup
