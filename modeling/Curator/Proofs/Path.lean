import Curator.Path
import Curator.Proofs.Text.Pieces

/-! Paths of the entries of a folder. The path of an entry is the path of its folder, a slash where
there is none yet, and a name; from it the folder and the name are found again. -/
namespace Curator

namespace Path

/-- A text that can stand between slashes and is a step of its own. -/
structure IsName (name : List Char) : Prop where
  hasNoSlash : '/' ∉ name
  counts : Component.ofPiece? name = some (.name name)

theorem isName_of_fileName? {path : Path} {name : List Char} (found : path.fileName? = some name) :
    IsName name := by
  have last : path.components.getLast? = some (.name name) := by
    unfold fileName? at found
    split at found
    · rename_i text last
      cases found
      exact last
    · cases found
  have member := List.mem_of_getLast? last
  rw [components, List.mem_append] at member
  rcases member with leading | counted
  · split at leading
    · simp at leading
    · split at leading <;> simp at leading
  · obtain ⟨piece, isPiece, counts⟩ := List.mem_filterMap.mp counted
    have same : piece = name := by
      unfold Component.ofPiece? at counts
      split at counts
      · cases counts
      · split at counts <;> cases counts
        rfl
    subst same
    exact { hasNoSlash := Text.not_mem_of_mem_splitAll isPiece, counts }

theorem splitName_eq_some {name stem extension : List Char}
    (split : splitName name = (stem, some extension)) :
    name = stem ++ '.' :: extension ∧ stem ≠ [] := by
  unfold splitName at split
  split at split
  · cases split
  · split at split
    · cases split
    · cases split
    · rename_i front back noEmpty found
      obtain ⟨rfl, same⟩ := Prod.mk.inj split
      obtain rfl := Option.some.inj same
      refine ⟨Text.splitLast?_eq_some found, ?_⟩
      rintro rfl
      exact noEmpty rfl

theorem exists_parent_stem_of_extension? {path : Path} {extension : List Char}
    (found : path.extension? = some extension) :
    ∃ folder stem, path.parent? = some folder ∧ path.stem? = some stem ∧ stem ≠ [] ∧
      '/' ∉ stem := by
  obtain ⟨name, named, known⟩ := Option.bind_eq_some_iff.mp found
  obtain ⟨folder, isFolder⟩ : ∃ folder, path.parent? = some folder := by
    unfold fileName? at named
    split at named
    · rename_i last
      simp [parent?, last]
    · cases named
  cases split : splitName name with
  | mk stem rest =>
    obtain rfl : rest = some extension := by
      rw [split] at known
      exact known
    obtain ⟨joined, notEmpty⟩ := splitName_eq_some split
    have hasNoSlash := (isName_of_fileName? named).hasNoSlash
    rw [joined, List.mem_append, not_or] at hasNoSlash
    refine ⟨folder, stem, isFolder, ?_, notEmpty, hasNoSlash.1⟩
    rw [stem?, named, Option.map_some, split]

def opening (folder : Path) : List Char :=
  if folder.text = [] then []
  else if folder.text.getLast? = some '/' then folder.text
  else folder.text ++ ['/']

theorem text_join {folder : Path} {name : List Char} (hasNoSlash : '/' ∉ name) :
    (folder.join ⟨name⟩).text = folder.opening ++ name := by
  have relative : isAbsolute ⟨name⟩ = false := by
    cases name with
    | nil => rfl
    | cons first rest =>
      rw [List.mem_cons, not_or] at hasNoSlash
      simp [isAbsolute, Ne.symm hasNoSlash.1]
  unfold join opening
  simp only [relative, Bool.false_or, List.isEmpty_iff]
  split
  · rfl
  · split
    · rfl
    · simp

theorem opening_eq_nil_or (folder : Path) :
    folder.opening = [] ∨ ∃ front, folder.opening = front ++ ['/'] := by
  unfold opening
  split
  · exact .inl rfl
  · split
    · rename_i closed
      exact .inr (List.getLast?_eq_some_iff.mp closed)
    · exact .inr ⟨_, rfl⟩

theorem getLast?_components_join (folder : Path) {name : List Char} (isName : IsName name) :
    (folder.join ⟨name⟩).components.getLast? = some (.name name) := by
  have pieces : ∃ before, Text.splitAll '/' (folder.join ⟨name⟩).text = before ++ [name] := by
    rw [text_join isName.hasNoSlash]
    rcases folder.opening_eq_nil_or with empty | ⟨front, closed⟩
    · exact ⟨[], by rw [empty, List.nil_append, Text.splitAll_of_not_mem isName.hasNoSlash]; rfl⟩
    · refine ⟨Text.splitAll '/' front, ?_⟩
      rw [closed, List.append_assoc, List.singleton_append, Text.splitAll_append_cons,
        Text.splitAll_of_not_mem isName.hasNoSlash]
  obtain ⟨before, split⟩ := pieces
  simp [components, split, List.filterMap_append, isName.counts]

theorem fileName?_join (folder : Path) {name : List Char} (isName : IsName name) :
    (folder.join ⟨name⟩).fileName? = some name := by
  rw [fileName?, getLast?_components_join folder isName]

theorem trimReversed_trimReversed (reversed : List Char) :
    trimReversed (trimReversed reversed) = trimReversed reversed := by
  fun_induction trimReversed reversed with
  | case1 => rfl
  | case2 rest notLone ih => exact ih
  | case3 => rfl
  | case4 rest notLone ih => exact ih
  | case5 reversed lone slash dot dotSlash =>
    rw [trimReversed]
    · exact lone
    · exact slash
    · exact dot
    · exact dotSlash

/-- The folder of a path has no slashes at its end that do not count. -/
theorem trimmed_of_parent? {path folder : Path} (found : path.parent? = some folder) :
    folder.trimmed = folder := by
  unfold parent? at found
  split at found
  · cases found
  · cases found
  · cases found
    simp [trimmed, trimReversed_trimReversed]

private theorem trimReversed_eq_self {last : Char} {rest : List Char} (notSlash : last ≠ '/')
    (notDot : last = '.' → rest.head? ≠ some '/') :
    trimReversed (last :: rest) = last :: rest := by
  rw [trimReversed]
  · intro same
    exact notSlash (List.cons.inj same).1
  · intro _ same
    exact notSlash (List.cons.inj same).1
  · intro same
    obtain ⟨isDot, rfl⟩ := List.cons.inj same
    exact notDot isDot rfl
  · intro _ same
    obtain ⟨isDot, rfl⟩ := List.cons.inj same
    exact notDot isDot rfl

private theorem trimReversed_name {name : List Char} (isName : IsName name)
    (before : List Char) : trimReversed (name.reverse ++ before) = name.reverse ++ before := by
  have absent : '/' ∉ name.reverse := by
    rw [List.mem_reverse]
    exact isName.hasNoSlash
  cases reversed : name.reverse with
  | nil =>
    obtain rfl : name = [] := List.reverse_eq_nil_iff.mp reversed
    cases isName.counts
  | cons last more =>
    rw [reversed, List.mem_cons, not_or] at absent
    apply trimReversed_eq_self (Ne.symm absent.1)
    rintro rfl
    cases more with
    | nil =>
      obtain rfl : name = ['.'] := by simpa using congrArg List.reverse reversed
      cases isName.counts
    | cons next more =>
      rw [List.mem_cons, not_or] at absent
      simpa using Ne.symm absent.2.1

theorem trimmed_join (folder : Path) {name : List Char} (isName : IsName name) :
    (folder.join ⟨name⟩).trimmed = folder.join ⟨name⟩ := by
  have same := trimReversed_name isName folder.opening.reverse
  rw [← List.reverse_append, ← text_join isName.hasNoSlash] at same
  rw [trimmed, same, List.reverse_reverse]

theorem trimmed_opening {folder : Path} (isTrimmed : folder.trimmed = folder) :
    trimmed ⟨folder.opening⟩ = folder := by
  obtain ⟨text⟩ := folder
  unfold opening
  split
  · rename_i empty
    obtain rfl : text = [] := empty
    rfl
  · rename_i notEmpty
    split
    · exact isTrimmed
    · have own : trimReversed text.reverse = text.reverse := by
        have texts := congrArg (fun path => path.text.reverse) isTrimmed
        simpa [trimmed] using texts
      have longer : text.reverse ≠ [] := by simpa using notEmpty
      rw [trimmed, List.reverse_append, List.reverse_singleton, List.singleton_append, trimReversed,
        own, List.reverse_reverse]
      intro empty
      exact longer empty

theorem parent?_join {folder : Path} (isTrimmed : folder.trimmed = folder) {name : List Char}
    (isName : IsName name) : (folder.join ⟨name⟩).parent? = some folder := by
  have inName : ∀ character ∈ name.reverse, (character != '/') = true := by
    intro character member
    rw [bne_iff_ne]
    rintro rfl
    exact isName.hasNoSlash (List.mem_reverse.mp member)
  have dropped : dropPiece (folder.join ⟨name⟩).text.reverse = folder.opening.reverse := by
    rw [text_join isName.hasNoSlash, List.reverse_append, dropPiece,
      List.dropWhile_append_of_pos inName]
    rcases folder.opening_eq_nil_or with empty | ⟨front, closed⟩
    · rw [empty]
      rfl
    · rw [closed, List.reverse_append]
      rfl
  rw [parent?, getLast?_components_join folder isName]
  dsimp only
  rw [trimmed_join folder isName, dropped, List.reverse_reverse, trimmed_opening isTrimmed]

end Path

end Curator
