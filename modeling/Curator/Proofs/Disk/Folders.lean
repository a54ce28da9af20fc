import Curator.Proofs.Disk.Companions
import Curator.Proofs.Path
import Curator.Proofs.Text.Slash

/-! Where the companions of a media file lie. A claim is compared with whole paths in small letters,
so that it reaches into folders whose name continues that of the media file, and into folders that
are named as its own but for the case of letters. -/
namespace Curator

open Text

/-- A path that comes to a name in a folder, and ends there or goes on below. -/
structure Path.GoesThrough (path folder : Path) (name below : List Char) : Prop where
  text : path.text = (folder.join ⟨name⟩).text ++ below
  hasNoSlash : '/' ∉ name
  ends : below = [] ∨ ∃ rest, below = '/' :: rest

namespace Path

/-- Folders that are named alike but for case begin the paths of their entries alike. -/
theorem lowercase_opening (folder : Path) : lowercase folder.opening = opening ⟨folder.key⟩ := by
  unfold opening key
  simp only [lowercase_eq_nil_iff, getLast?_lowercase_eq_slash_iff]
  split
  · rfl
  · split
    · rfl
    · exact lowercase_append_slash folder.text []

/-- What begins paths like the entries of a folder does so for a folder that is named alike. -/
theorem exists_opening {folder : Path} {front : List Char}
    (alike : lowercase front = lowercase folder.opening) :
    ∃ place : Path, place.opening = front ∧ place.key = folder.key := by
  -- A slash is put behind a folder unless it is empty or ends in one.
  by_cases empty : folder.text = []
  · have none : folder.opening = [] := if_pos empty
    rw [none] at alike
    obtain rfl : front = [] := lowercase_eq_nil_iff.mp alike
    exact ⟨folder, none, rfl⟩
  by_cases closed : folder.text.getLast? = some '/'
  · have own : folder.opening = folder.text := by rw [opening, if_neg empty, if_pos closed]
    rw [own] at alike
    have frontNotEmpty : front ≠ [] := by
      rwa [ne_eq, ← lowercase_eq_nil_iff, alike, lowercase_eq_nil_iff]
    have frontClosed : front.getLast? = some '/' := by
      rwa [← getLast?_lowercase_eq_slash_iff, alike, getLast?_lowercase_eq_slash_iff]
    exact ⟨⟨front⟩, by rw [opening, if_neg frontNotEmpty, if_pos frontClosed], alike⟩
  · have own : folder.opening = folder.text ++ ['/'] := by
      rw [opening, if_neg empty, if_neg closed]
    rw [own, lowercase_append_slash, lowercase_eq_append_slash_iff] at alike
    obtain ⟨text, rest, rfl, same, behind⟩ := alike
    obtain rfl : rest = [] := lowercase_eq_nil_iff.mp behind
    have notEmpty : text ≠ [] := by
      rwa [ne_eq, ← lowercase_eq_nil_iff, same, lowercase_eq_nil_iff]
    have notClosed : ¬ text.getLast? = some '/' := by
      rwa [← getLast?_lowercase_eq_slash_iff, same, getLast?_lowercase_eq_slash_iff]
    exact ⟨⟨text⟩, by rw [opening, if_neg notEmpty, if_neg notClosed], same⟩

/-- In small letters a text begins with the path of an entry when one part of it is that of the
folder and the next one begins with the name. -/
theorem lowercase_opening_append_iff {folder : Path} {word text : List Char} :
    lowercase (folder.opening ++ word) <+: lowercase text ↔
      ∃ place : Path, ∃ rest, text = place.opening ++ rest ∧ place.key = folder.key ∧
        lowercase word <+: lowercase rest := by
  rw [lowercase_append_of_closed folder.opening_eq_nil_or]
  constructor
  · rintro ⟨more, joined⟩
    have parts : ∃ front rest, text = front ++ rest ∧
        lowercase front = lowercase folder.opening ∧
          lowercase rest = lowercase word ++ more := by
      rcases folder.opening_eq_nil_or with empty | ⟨before, closed⟩
      · rw [empty] at joined ⊢
        exact ⟨[], text, rfl, rfl, joined.symm⟩
      · rw [closed, lowercase_append_slash] at joined
        have split : lowercase text = lowercase before ++ '/' :: (lowercase word ++ more) := by
          rw [← joined]
          simp [lowercase, lowercaseAfter]
        obtain ⟨front, rest, rfl, frontAlike, restAlike⟩ := lowercase_eq_append_slash_iff.mp split
        refine ⟨front ++ ['/'], rest, by simp, ?_, restAlike⟩
        rw [closed, lowercase_append_slash, lowercase_append_slash, frontAlike]
    obtain ⟨front, rest, rfl, frontAlike, restAlike⟩ := parts
    obtain ⟨place, rfl, sameKey⟩ := exists_opening frontAlike
    exact ⟨place, rest, rfl, sameKey, more, restAlike.symm⟩
  · rintro ⟨place, rest, rfl, sameKey, leads⟩
    rw [lowercase_append_of_closed place.opening_eq_nil_or, lowercase_opening, lowercase_opening,
      sameKey, List.prefix_append_right_inj]
    exact leads

theorem exists_parent_stem_of_isMedia {path : Path} (media : path.isMedia = true) :
    ∃ folder stem, path.parent? = some folder ∧ path.stem? = some stem ∧ stem ≠ [] ∧
      '/' ∉ stem := by
  unfold isMedia hasExtension at media
  split at media
  · rename_i extension found
    exact exists_parent_stem_of_extension? found
  · cases media

end Path

namespace FileSet

variable {primary folder : Path} {stem : List Char}

theorem lead_eq (isFolder : primary.parent? = some folder) (isStem : primary.stem? = some stem)
    (hasNoSlash : '/' ∉ stem) : lead primary = folder.opening ++ (stem ++ ['.']) := by
  rw [lead, isFolder, isStem]
  dsimp only [Option.getD_some]
  rw [Path.text_join hasNoSlash, List.append_assoc]

/-- A media file claims what comes through a folder named as its own, up to case, to a name that
begins with its stem and a dot. -/
theorem claims_iff_goesThrough (isFolder : primary.parent? = some folder)
    (isStem : primary.stem? = some stem) (hasNoSlash : '/' ∉ stem) (path : Path) :
    claims primary path = true ↔
      ∃ place name below, path.GoesThrough place name below ∧ place.key = folder.key ∧
        lowercase (stem ++ ['.']) <+: lowercase name := by
  have wordHasNoSlash : '/' ∉ stem ++ ['.'] := by
    rw [List.mem_append, not_or]
    exact ⟨hasNoSlash, by decide⟩
  rw [claims_iff, claim_eq, lead_eq isFolder isStem hasNoSlash, Path.key,
    Path.lowercase_opening_append_iff]
  constructor
  · rintro ⟨place, rest, joined, sameKey, leads⟩
    obtain ⟨name, below, rfl, absent, ends⟩ := exists_before_slash rest
    rw [lowercase_prefix_append_iff wordHasNoSlash ends] at leads
    refine ⟨place, name, below, ?_, sameKey, leads⟩
    exact { text := by rw [joined, Path.text_join absent, List.append_assoc],
            hasNoSlash := absent, ends }
  · rintro ⟨place, name, below, through, sameKey, leads⟩
    refine ⟨place, name ++ below, ?_, sameKey, ?_⟩
    · rw [through.text, Path.text_join through.hasNoSlash, List.append_assoc]
    · rwa [lowercase_prefix_append_iff wordHasNoSlash through.ends]

/-- What begins with a stem and a dot is a name, unless it is the step to the folder above. -/
theorem isName_of_continues {name : List Char} (notEmpty : stem ≠ []) (hasNoSlash : '/' ∉ name)
    (leads : lowercase (stem ++ ['.']) <+: lowercase name) (notAbove : name ≠ ['.', '.']) :
    Path.IsName name := by
  have long : 2 ≤ (lowercase name).length := by
    have stemLong : 1 ≤ stem.length := List.length_pos_iff.mpr notEmpty
    have wordLong := length_le_lowercase (stem ++ ['.'])
    have within := leads.length_le
    rw [List.length_append, List.length_singleton] at wordLong
    omega
  refine { hasNoSlash, counts := ?_ }
  unfold Path.Component.ofPiece?
  rw [if_neg, if_neg notAbove]
  rintro (rfl | rfl)
  · exact absurd long (by decide)
  · exact absurd long (by decide +kernel)

end FileSet

namespace FileSets

theorem Emits.isMedia_of_mem {disk : Disk} {files : List Path} {left : FileSets}
    {emitted : List FileSet} (emits : Emits (ofListing disk files) emitted left) {set : FileSet}
    (member : set ∈ emitted) : set.primary.isMedia = true := by
  have order : bySize disk (files.filter Path.isMedia) =
      emitted.map FileSet.primary ++ left.media := emits.media
  have leads : set.primary ∈ bySize disk (files.filter Path.isMedia) := by
    rw [order]
    exact List.mem_append_left _ (List.mem_map_of_mem member)
  rw [(bySize_perm disk _).mem_iff, List.mem_filter, List.mem_filter] at leads
  exact leads.1.2

/-- The companions of a media file come through a folder that is named as its own, up to case, to a
name that begins, up to case, with its stem and a dot. Where the folder is its own and the path goes
on no further, the companion lies in that folder and has that name; two dots are no name. -/
theorem scan_companions_continue_stem (disk : Disk) (root : Path) (recursive : Bool)
    (raised : Nat → Bool) (files : List Path)
    (listed : disk.list root recursive raised = .ok files) :
    ∃ sets, scan disk root recursive raised = .ok sets ∧
      (∃ emitted left, Emits sets emitted left ∧ left.next? false = none) ∧
      ∀ emitted left, Emits sets emitted left → ∀ set ∈ emitted, ∃ folder stem,
        set.primary.parent? = some folder ∧ set.primary.stem? = some stem ∧
        ∀ companion ∈ set.companions, ∃ place name below,
          companion.GoesThrough place name below ∧ place.key = folder.key ∧
          lowercase (stem ++ ['.']) <+: lowercase name ∧
          (place = folder → below = [] → name ≠ ['.', '.'] →
            companion.parent? = some folder ∧ companion.fileName? = some name) := by
  refine ⟨ofListing disk files, by rw [scan, listed]; rfl, ⟨_, _, emits_run _, rfl⟩, ?_⟩
  intro emitted left emits set member
  obtain ⟨folder, stem, isFolder, isStem, notEmpty, hasNoSlash⟩ :=
    Path.exists_parent_stem_of_isMedia (emits.isMedia_of_mem member)
  refine ⟨folder, stem, isFolder, isStem, ?_⟩
  intro companion accompanies
  have claims := emits.claims_of_mem_companions member accompanies
  obtain ⟨place, name, below, through, sameKey, leads⟩ :=
    (FileSet.claims_iff_goesThrough isFolder isStem hasNoSlash companion).mp claims
  refine ⟨place, name, below, through, sameKey, leads, ?_⟩
  rintro rfl rfl notAbove
  have isName := FileSet.isName_of_continues notEmpty through.hasNoSlash leads notAbove
  have isEntry : companion = place.join ⟨name⟩ := by
    obtain ⟨text⟩ := companion
    exact congrArg Path.mk (through.text.trans (List.append_nil _))
  rw [isEntry]
  exact ⟨Path.parent?_join (Path.trimmed_of_parent? isFolder) isName,
    Path.fileName?_join place isName⟩

/-- An episode with subtitles beside it, extras in a folder of their own, and other subtitles in a
folder with a capital letter for a name. -/
def extrasFiles : List ListedFile :=
  [{ path := .ofString "a/ep.mkv", size := 1 },
    { path := .ofString "a/EP.en.srt" },
    { path := .ofString "a/ep.extras/x.srt" },
    { path := .ofString "A/ep.srt" }]

theorem scan_companions_of_extrasFiles :
    let disk := Disk.ofList extrasFiles none
    let files := extrasFiles.map ListedFile.path
    disk.list (.ofString "") true (fun _ => false) = .ok files ∧
      ∃ sets emitted left, scan disk (.ofString "") true (fun _ => false) = .ok sets ∧
        Emits sets emitted left ∧ left.next? false = none ∧
        ∀ set ∈ emitted, ∃ folder stem,
          set.primary.parent? = some folder ∧ set.primary.stem? = some stem ∧
          ∀ companion ∈ set.companions, ∃ place name below,
            companion.GoesThrough place name below ∧ place.key = folder.key ∧
            lowercase (stem ++ ['.']) <+: lowercase name := by
  intro disk files
  have listed : disk.list (.ofString "") true (fun _ => false) = .ok files := rfl
  obtain ⟨sets, scanned, ⟨emitted, left, emits, exhausted⟩, always⟩ :=
    scan_companions_continue_stem disk (.ofString "") true (fun _ => false) files listed
  refine ⟨listed, sets, emitted, left, scanned, emits, exhausted, ?_⟩
  intro set member
  obtain ⟨folder, stem, isFolder, isStem, companions⟩ := always emitted left emits set member
  refine ⟨folder, stem, isFolder, isStem, ?_⟩
  intro companion accompanies
  obtain ⟨place, name, below, through, sameKey, leads, _⟩ := companions companion accompanies
  exact ⟨place, name, below, through, sameKey, leads⟩

/-- Of the companions of the episode only one lies in its folder: one lies in a folder below, and
its name does not begin with that of the episode, and one lies in a folder beside. -/
theorem scan_claims_across_folders :
    let disk := Disk.ofList extrasFiles none
    let extra : Path := .ofString "a/ep.extras/x.srt"
    let beside : Path := .ofString "A/ep.srt"
    disk.list (.ofString "") true (fun _ => false) = .ok (extrasFiles.map ListedFile.path) ∧
      ∃ sets emitted left, ∃ set ∈ emitted,
        scan disk (.ofString "") true (fun _ => false) = .ok sets ∧
        Emits sets emitted left ∧ left.next? false = none ∧
        set.primary.parent? = some (.ofString "a") ∧ set.primary.stem? = some "ep".toList ∧
        extra ∈ set.companions ∧ extra.parent? = some (.ofString "a/ep.extras") ∧
        extra.fileName? = some "x.srt".toList ∧
        ¬ lowercase "ep.".toList <+: lowercase "x.srt".toList ∧
        beside ∈ set.companions ∧ beside.parent? = some (.ofString "A") := by
  refine ⟨rfl, _, _, _,
    { primary := .ofString "a/ep.mkv",
      companions :=
        [.ofString "a/EP.en.srt", .ofString "a/ep.extras/x.srt", .ofString "A/ep.srt"] },
    ?_, rfl, emits_run _, rfl, ?_⟩
  · decide +kernel
  · decide +kernel

end FileSets

end Curator
