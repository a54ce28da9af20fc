import Curator.Proofs.Disk.Grouping
import Curator.Proofs.Text.Lowercase
import Mathlib.Logic.ExistsUnique

/-! Companions of a media file by their text. A file set claims in small letters; a path that begins
with the name of the media file as it stands is claimed too, unless that name ends in a capital
sigma and the path goes on with a letter, which makes the sigma a medial one. -/
namespace Curator

/-- The path of a media file up to the dot before its extension. -/
def FileSet.lead (primary : Path) : List Char :=
  let stem : Path := ⟨primary.stem?.getD []⟩
  let base := match primary.parent? with
    | some folder => folder.join stem
    | none => stem
  base.text ++ ['.']

theorem FileSet.claim_eq (primary : Path) : claim primary = Text.lowercase (lead primary) := rfl

/-- Whether the lower case of a path that goes on with `rest` loses the claim of a media file. -/
def FileSet.LosesSigma (primary : Path) (rest : List Char) : Prop :=
  Text.EndsInSigma [] (lead primary) ∧ Text.reachesCased rest = true

instance (primary : Path) (rest : List Char) : Decidable (FileSet.LosesSigma primary rest) :=
  inferInstanceAs (Decidable (_ ∧ _))

theorem FileSet.claims_iff_of_lead {primary path : Path} {rest : List Char}
    (begins : path.text = lead primary ++ rest) :
    claims primary path = true ↔ ¬ LosesSigma primary rest := by
  rw [claims_iff, claim_eq, Path.key, begins]
  exact Text.lowercaseAfter_append_iff [] (lead primary) rest

namespace FileSets

/-- A file is a companion in the set at a place when its media file is the first to claim it. -/
theorem Emits.mem_companions_iff {sets left : FileSets} {emitted : List FileSet}
    (emits : Emits sets emitted left) {place : Nat} {set : FileSet}
    (found : emitted[place]? = some set) (path : Path) :
    path ∈ set.companions ↔
      path ∈ sets.unclaimed ∧ FileSet.claims set.primary path = true ∧
        ∀ earlier ∈ emitted.take place, ¬ FileSet.claims earlier.primary path = true := by
  obtain ⟨within, rfl⟩ := List.getElem?_eq_some_iff.mp found
  have split : emitted =
      emitted.take place ++ emitted[place] :: emitted.drop (place + 1) := by
    rw [← List.drop_eq_getElem_cons, List.take_append_drop]
  rw [emits.companions split, List.mem_filter, Bool.and_eq_true]
  simp [isClaimed, -List.map_take]

theorem Emits.claims_of_mem_companions {sets left : FileSets} {emitted : List FileSet}
    (emits : Emits sets emitted left) {set : FileSet} (member : set ∈ emitted) {path : Path}
    (companion : path ∈ set.companions) : FileSet.claims set.primary path = true := by
  obtain ⟨place, found⟩ := List.mem_iff_getElem?.mp member
  exact ((emits.mem_companions_iff found path).mp companion).2.1

/-- A file that some media file claims is a companion in one set, and left over in the end by
none. -/
theorem Emits.existsUnique_companion {sets left : FileSets} {emitted : List FileSet}
    (emits : Emits sets emitted left) {path : Path} (member : path ∈ sets.unclaimed)
    (claimed : ∃ set ∈ emitted, FileSet.claims set.primary path = true) :
    path ∉ left.unclaimed ∧
      ∃! place : Nat, ∃ set : FileSet,
        emitted[place]? = some set ∧ path ∈ set.companions := by
  constructor
  · rw [emits.unclaimed, List.mem_filter]
    simpa [isClaimed, member] using claimed
  obtain ⟨first, found⟩ := Option.isSome_iff_exists.mp (List.find?_isSome.mpr claimed)
  obtain ⟨claims, before, after, split, unclaiming⟩ := List.find?_eq_some_iff_append.mp found
  have atLength : emitted[before.length]? = some first := by simp [split]
  refine ⟨before.length, ⟨first, atLength, ?_⟩, ?_⟩
  · rw [emits.mem_companions_iff atLength]
    refine ⟨member, claims, ?_⟩
    simpa [split] using unclaiming
  · -- Of two places the earlier one has a media file that claims the path before the later one.
    rintro place ⟨set, atPlace, companion⟩
    obtain ⟨_, claiming, noEarlier⟩ := (emits.mem_companions_iff atPlace path).mp companion
    obtain earlier | rfl | later := Nat.lt_trichotomy place before.length
    · have inBefore : set ∈ before := by
        rw [split, List.getElem?_append_left earlier] at atPlace
        exact List.mem_of_getElem? atPlace
      have unclaimed := unclaiming set inBefore
      rw [claiming] at unclaimed
      cases unclaimed
    · rfl
    · have inTake : first ∈ emitted.take place := by
        rw [← List.getElem?_take_of_lt later] at atLength
        exact List.mem_of_getElem? atLength
      exact absurd claims (noEarlier first inTake)

/-- No companion is left over by its text. A file whose path goes on from that of a media file of
known size, up to the dot before the extension, is a companion in one set of every run to the end;
but where lower case turns the sigma at the end of a name into a medial one, its media file does not
get it. -/
theorem scan_gives_companion_to_one_set (disk : Disk) (root : Path) (recursive : Bool)
    (raised : Nat → Bool) (files : List Path)
    (listed : disk.list root recursive raised = .ok files) :
    ∃ sets, scan disk root recursive raised = .ok sets ∧
      (∃ emitted left, Emits sets emitted left ∧ left.next? false = none) ∧
      ∀ emitted left, Emits sets emitted left → left.next? false = none →
        ∀ media ∈ files, media.isMedia = true → (disk.size? media).isSome = true →
        ∀ path ∈ files, path.isMedia = false →
        ∀ rest, path.text = FileSet.lead media ++ rest →
          (¬ FileSet.LosesSigma media rest →
            path ∉ left.unclaimed ∧
              ∃! place : Nat, ∃ set : FileSet,
                emitted[place]? = some set ∧ path ∈ set.companions) ∧
          (FileSet.LosesSigma media rest →
            ∀ set ∈ emitted, set.primary = media → path ∉ set.companions) := by
  refine ⟨ofListing disk files, by rw [scan, listed]; rfl, ⟨_, _, emits_run _, rfl⟩, ?_⟩
  intro emitted left emits exhausted media mediaMember isMedia known path member isOther rest begins
  have claims := FileSet.claims_iff_of_lead begins
  have unclaimed : path ∈ (ofListing disk files).unclaimed :=
    List.mem_filter.mpr ⟨member, by rw [isOther]; rfl⟩
  constructor
  · intro keeps
    apply emits.existsUnique_companion unclaimed
    have leads : media ∈ bySize disk (files.filter Path.isMedia) := by
      rw [(bySize_perm disk _).mem_iff, List.mem_filter, List.mem_filter]
      exact ⟨⟨mediaMember, isMedia⟩, known⟩
    have all : bySize disk (files.filter Path.isMedia) =
        emitted.map FileSet.primary ++ left.media := emits.media
    rw [all, (next?_eq_none_iff left).mp exhausted, List.append_nil] at leads
    obtain ⟨set, emittedSet, rfl⟩ := List.mem_map.mp leads
    exact ⟨set, emittedSet, claims.mpr keeps⟩
  · rintro loses set emittedSet rfl companion
    obtain ⟨place, found⟩ := List.mem_iff_getElem?.mp emittedSet
    have claiming := ((emits.mem_companions_iff found path).mp companion).2.1
    exact claims.mp claiming loses

/-- A film whose name ends in a capital sigma, with subtitles in two parts of the word. -/
def sigmaFiles : List ListedFile :=
  [{ path := .ofString "ΑΣ.mkv", size := 1 },
    { path := .ofString "ΑΣ.srt" },
    { path := .ofString "ΑΣ.2.srt" }]

theorem scan_gives_companion_of_sigmaFiles :
    let disk := Disk.ofList sigmaFiles none
    let files := sigmaFiles.map ListedFile.path
    disk.list (.ofString "") true (fun _ => false) = .ok files ∧
      ∃ sets, scan disk (.ofString "") true (fun _ => false) = .ok sets ∧
        ∃ emitted left, Emits sets emitted left ∧ left.next? false = none ∧
          .ofString "ΑΣ.2.srt" ∉ left.unclaimed ∧
          (∃! place : Nat, ∃ set : FileSet,
            emitted[place]? = some set ∧ .ofString "ΑΣ.2.srt" ∈ set.companions) ∧
          ∀ set ∈ emitted, set.primary = .ofString "ΑΣ.mkv" →
            .ofString "ΑΣ.srt" ∉ set.companions := by
  intro disk files
  have listed : disk.list (.ofString "") true (fun _ => false) = .ok files := rfl
  obtain ⟨sets, scanned, ⟨emitted, left, emits, exhausted⟩, always⟩ :=
    scan_gives_companion_to_one_set disk (.ofString "") true (fun _ => false) files listed
  have ofFilm := always emitted left emits exhausted (.ofString "ΑΣ.mkv") (by decide)
    (by decide +kernel) rfl
  obtain ⟨kept, once⟩ := (ofFilm (.ofString "ΑΣ.2.srt") (by decide) (by decide +kernel)
    "2.srt".toList (by decide +kernel)).1 (by decide +kernel)
  have lost := (ofFilm (.ofString "ΑΣ.srt") (by decide) (by decide +kernel)
    "srt".toList (by decide +kernel)).2 (by decide +kernel)
  exact ⟨listed, sets, scanned, emitted, left, emits, exhausted, kept, once, lost⟩

/-- The subtitles whose path only goes on with letters stay behind, though it begins with that of
the film. -/
theorem scan_leaves_companion_of_sigmaFiles :
    let disk := Disk.ofList sigmaFiles none
    let film : Path := .ofString "ΑΣ.mkv"
    let subtitles : Path := .ofString "ΑΣ.srt"
    disk.list (.ofString "") true (fun _ => false) = .ok (sigmaFiles.map ListedFile.path) ∧
      film.isMedia = true ∧ disk.size? film = some 1 ∧ subtitles.isMedia = false ∧
      subtitles.text = FileSet.lead film ++ "srt".toList ∧
      ∃ sets emitted left, scan disk (.ofString "") true (fun _ => false) = .ok sets ∧
        Emits sets emitted left ∧ left.next? false = none ∧
        subtitles ∈ left.unclaimed ∧ ∀ set ∈ emitted, subtitles ∉ set.companions := by
  refine ⟨rfl, by decide +kernel, rfl, by decide +kernel, by decide +kernel, ?_⟩
  exact ⟨_, _, _, rfl, emits_run _, rfl, by decide +kernel, by decide +kernel⟩

end FileSets
end Curator
