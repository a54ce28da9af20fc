import Curator.Disk.FileSet
import Curator.Proofs.StableSort

/-! File sets share out the files of a listing: every media file whose size is known leads one set,
the largest first, and every other file goes to the first of them that claims it or stays unclaimed.
-/
namespace Curator

def Disk.size? (disk : Disk) (path : Path) : Option UInt64 :=
  (disk.size path).toOption

theorem Text.startsWith_iff {text lead : List Char} :
    Text.startsWith text lead = true ↔ lead <+: text := by
  rw [startsWith, Option.isSome_iff_exists]
  constructor
  · rintro ⟨rest, found⟩
    exact ⟨rest, (after?_eq_some_iff.mp found).symm⟩
  · rintro ⟨rest, joined⟩
    exact ⟨rest, after?_eq_some_iff.mpr joined.symm⟩

theorem FileSet.claims_iff {primary other : Path} :
    FileSet.claims primary other = true ↔ FileSet.claim primary <+: other.key :=
  Text.startsWith_iff

namespace FileSets

private def sized (disk : Disk) (media : List Path) : List (Path × UInt64) :=
  media.filterMap fun path => (disk.size path).toOption.map fun size => (path, size)

private theorem size?_of_mem_sized {disk : Disk} {media : List Path} {entry : Path × UInt64}
    (member : entry ∈ sized disk media) : disk.size? entry.1 = some entry.2 := by
  obtain ⟨path, _, found⟩ := List.mem_filterMap.mp member
  obtain ⟨size, known, rfl⟩ := Option.map_eq_some_iff.mp found
  exact known

private theorem map_fst_sized (disk : Disk) (media : List Path) :
    (sized disk media).map Prod.fst = media.filter fun path => (disk.size? path).isSome := by
  induction media with
  | nil => rfl
  | cons path media ih =>
    unfold sized at ih ⊢
    unfold Disk.size? at ih ⊢
    cases known : (disk.size path).toOption with
    | none => simpa [List.filterMap_cons, known] using ih
    | some size => simpa [List.filterMap_cons, known] using ih

private theorem sizes_trans (a b c : Path × UInt64) (first : decide (b.2 ≤ a.2) = true)
    (second : decide (c.2 ≤ b.2) = true) : decide (c.2 ≤ a.2) = true := by
  simp only [decide_eq_true_eq] at first second ⊢
  exact UInt64.le_trans second first

private theorem sizes_total (a b : Path × UInt64) :
    (decide (b.2 ≤ a.2) || decide (a.2 ≤ b.2)) = true := by
  simp only [Bool.or_eq_true, decide_eq_true_eq]
  exact UInt64.le_total b.2 a.2

theorem bySize_perm (disk : Disk) (media : List Path) :
    (bySize disk media).Perm (media.filter fun path => (disk.size? path).isSome) := by
  rw [← map_fst_sized]
  exact (List.mergeSort_perm (sized disk media) _).map Prod.fst

theorem bySize_descending (disk : Disk) (media : List Path) :
    (bySize disk media).Pairwise fun left right =>
      ∀ larger smaller, disk.size? left = some larger → disk.size? right = some smaller →
        smaller ≤ larger := by
  have sorted := List.pairwise_mergeSort sizes_trans sizes_total (sized disk media)
  rw [bySize, List.pairwise_map]
  refine List.Pairwise.imp_of_mem ?_ sorted
  intro left right leftMember rightMember ordered larger smaller leftSize rightSize
  have leftKnown := size?_of_mem_sized (List.mem_mergeSort.mp leftMember)
  have rightKnown := size?_of_mem_sized (List.mem_mergeSort.mp rightMember)
  rw [leftKnown] at leftSize
  rw [rightKnown] at rightSize
  cases leftSize
  cases rightSize
  simpa using ordered

theorem bySize_stable (disk : Disk) (media : List Path) (size : UInt64) :
    (bySize disk media).filter (fun path => disk.size? path == some size) =
      media.filter fun path => disk.size? path == some size := by
  have entries := filter_mergeSort sizes_trans sizes_total (fun entry => entry.2 == size)
    (sized disk media) (by
      intro a b first second
      simp only [beq_iff_eq] at first second
      simp [first, second])
  have agree : ∀ entry ∈ sized disk media,
      (disk.size? entry.1 == some size) = (entry.2 == size) := by
    intro entry member
    rw [size?_of_mem_sized member]
    rfl
  calc (bySize disk media).filter (fun path => disk.size? path == some size)
      = (((sized disk media).mergeSort fun left right => decide (right.2 ≤ left.2)).filter
          fun entry => disk.size? entry.1 == some size).map Prod.fst := List.filter_map
    _ = (((sized disk media).mergeSort fun left right => decide (right.2 ≤ left.2)).filter
          fun entry => entry.2 == size).map Prod.fst := by
        congr 1
        exact List.filter_congr fun entry member => agree entry (List.mem_mergeSort.mp member)
    _ = ((sized disk media).filter fun entry => entry.2 == size).map Prod.fst := by rw [entries]
    _ = ((sized disk media).filter fun entry => disk.size? entry.1 == some size).map Prod.fst := by
        congr 1
        exact List.filter_congr fun entry member => (agree entry member).symm
    _ = ((sized disk media).map Prod.fst).filter fun path => disk.size? path == some size := by
        rw [List.filter_map]
        rfl
    _ = media.filter fun path => disk.size? path == some size := by
        rw [map_fst_sized, List.filter_filter]
        apply List.filter_congr
        intro path _
        cases disk.size? path <;> simp

def isClaimed (primaries : List Path) (path : Path) : Bool :=
  primaries.any (FileSet.claims · path)

/-- The file sets that come one after the other while the signal to stop is down, and what is left
after them. -/
inductive Emits : FileSets → List FileSet → FileSets → Prop where
  | none (sets : FileSets) : Emits sets [] sets
  | next {sets rest left : FileSets} {set : FileSet} {emitted : List FileSet}
      (first : sets.next? false = some (set, rest)) (others : Emits rest emitted left) :
      Emits sets (set :: emitted) left

private theorem next?_eq_some {sets rest : FileSets} {set : FileSet}
    (first : sets.next? false = some (set, rest)) :
    sets.media = set.primary :: rest.media ∧
      set.companions = sets.unclaimed.filter (FileSet.claims set.primary) ∧
      rest.unclaimed = sets.unclaimed.filter fun path => !FileSet.claims set.primary path := by
  obtain ⟨media, unclaimed⟩ := sets
  cases media with
  | nil => cases first
  | cons primary media =>
    cases first
    exact ⟨rfl, rfl, rfl⟩

theorem next?_eq_none_iff (sets : FileSets) : sets.next? false = none ↔ sets.media = [] := by
  obtain ⟨media, unclaimed⟩ := sets
  cases media with
  | nil => exact ⟨fun _ => rfl, fun _ => rfl⟩
  | cons primary media =>
    constructor
    · intro stopped
      cases stopped
    · intro empty
      cases empty

theorem Emits.media {sets left : FileSets} {emitted : List FileSet}
    (emits : Emits sets emitted left) : sets.media = emitted.map FileSet.primary ++ left.media := by
  induction emits with
  | none => rfl
  | next first _ ih => rw [(next?_eq_some first).1, ih, List.map_cons, List.cons_append]

/-- What is left unclaimed is what no media file so far claims. -/
theorem Emits.unclaimed {sets left : FileSets} {emitted : List FileSet}
    (emits : Emits sets emitted left) :
    left.unclaimed =
      sets.unclaimed.filter fun path => !isClaimed (emitted.map FileSet.primary) path := by
  induction emits with
  | none sets => simp [isClaimed]
  | next first _ ih =>
    rw [ih, (next?_eq_some first).2.2, List.filter_filter]
    apply List.filter_congr
    intro path _
    simp [isClaimed, Bool.and_comm]

/-- Companions and unclaimed files together are the files there were. -/
theorem Emits.perm {sets left : FileSets} {emitted : List FileSet}
    (emits : Emits sets emitted left) :
    (emitted.flatMap FileSet.companions ++ left.unclaimed).Perm sets.unclaimed := by
  induction emits with
  | none => exact .refl _
  | @next sets rest left set emitted first _ ih =>
    obtain ⟨_, companions, remaining⟩ := next?_eq_some first
    rw [List.flatMap_cons, List.append_assoc]
    refine (ih.append_left set.companions).trans ?_
    rw [companions, remaining]
    exact List.filter_append_perm _ _

/-- A set has the files that its media file claims and no earlier one does, in their order. -/
theorem Emits.companions {sets left : FileSets} {emitted before after : List FileSet}
    {set : FileSet} (emits : Emits sets emitted left) (place : emitted = before ++ set :: after) :
    set.companions = sets.unclaimed.filter fun path =>
      FileSet.claims set.primary path && !isClaimed (before.map FileSet.primary) path := by
  induction emits generalizing before with
  | none => simp at place
  | @next sets rest left head emitted first _ ih =>
    obtain ⟨_, companions, remaining⟩ := next?_eq_some first
    cases before with
    | nil =>
      obtain ⟨rfl, _⟩ := List.cons.inj place
      simpa [isClaimed] using companions
    | cons earlier before =>
      obtain ⟨rfl, others⟩ := List.cons.inj place
      rw [ih others, remaining, List.filter_filter]
      apply List.filter_congr
      intro path _
      simp [isClaimed, Bool.and_comm, Bool.and_left_comm]

/-- Taking all file sets at once takes them one by one to the end. -/
theorem emits_run (sets : FileSets) :
    Emits sets sets.run.1 { media := [], unclaimed := sets.run.2 } := by
  obtain ⟨media, unclaimed⟩ := sets
  induction media generalizing unclaimed with
  | nil => exact .none _
  | cons primary media ih => exact .next rfl (ih _)

private theorem not_isClaimed_iff {sets : List FileSet} {path : Path} :
    (!isClaimed (sets.map FileSet.primary) path) = true ↔
      ∀ set ∈ sets, ¬ FileSet.claim set.primary <+: path.key := by
  simp [isClaimed, ← FileSet.claims_iff]

/-- The file sets of every listing, at every point at which some of them have been taken. The media
files whose size can be read lead the sets, by decreasing size and else in the order of the listing.
Companions and unclaimed files make up the other files. A file goes to the first media file whose
claim its path continues, and stays unclaimed at the end only when there is none. -/
theorem scan_shares_out_listing (disk : Disk) (root : Path) (recursive : Bool)
    (raised : Nat → Bool) (files : List Path)
    (listed : disk.list root recursive raised = .ok files) :
    ∃ sets primaries, scan disk root recursive raised = .ok sets ∧
      primaries.Perm (files.filter fun path => path.isMedia && (disk.size? path).isSome) ∧
      (primaries.Pairwise fun left right =>
        ∀ larger smaller, disk.size? left = some larger → disk.size? right = some smaller →
          smaller ≤ larger) ∧
      (∀ size, primaries.filter (fun path => disk.size? path == some size) =
        files.filter fun path => path.isMedia && disk.size? path == some size) ∧
      (∃ emitted left, Emits sets emitted left ∧ left.next? false = none) ∧
      ∀ emitted left, Emits sets emitted left →
        emitted.map FileSet.primary <+: primaries ∧
        (emitted.flatMap FileSet.companions ++ left.unclaimed).Perm
          (files.filter fun path => !path.isMedia) ∧
        (∀ before set after, emitted = before ++ set :: after →
          set.companions = files.filter fun path =>
            !path.isMedia && decide (FileSet.claim set.primary <+: path.key ∧
              ∀ earlier ∈ before, ¬ FileSet.claim earlier.primary <+: path.key)) ∧
        (left.next? false = none →
          emitted.map FileSet.primary = primaries ∧
          ∀ path ∈ left.unclaimed, ∀ set ∈ emitted,
            ¬ FileSet.claim set.primary <+: path.key) := by
  refine ⟨ofListing disk files, bySize disk (files.filter Path.isMedia), ?_, ?_,
    bySize_descending disk _, ?_, ⟨_, _, emits_run _, rfl⟩, ?_⟩
  · rw [scan, listed]
    rfl
  · refine (bySize_perm disk _).trans ?_
    rw [List.filter_filter]
    simp only [Bool.and_comm]
    exact .refl _
  · intro size
    rw [bySize_stable, List.filter_filter]
    simp only [Bool.and_comm]
  · intro emitted left emits
    have media : bySize disk (files.filter Path.isMedia) =
        emitted.map FileSet.primary ++ left.media := emits.media
    refine ⟨⟨left.media, media.symm⟩, emits.perm, ?_, ?_⟩
    · intro before set after place
      rw [emits.companions place, ofListing, List.filter_filter]
      apply List.filter_congr
      intro path _
      rw [Bool.and_comm]
      congr 1
      rw [Bool.eq_iff_iff, Bool.and_eq_true, FileSet.claims_iff, not_isClaimed_iff,
        decide_eq_true_eq]
    · intro exhausted
      rw [next?_eq_none_iff] at exhausted
      refine ⟨by simpa [exhausted] using media.symm, ?_⟩
      intro path unclaimed
      rw [emits.unclaimed] at unclaimed
      exact not_isClaimed_iff.mp (List.mem_filter.mp unclaimed).2

/-- A show whose largest file claims what continues its name, before the file with the shorter name
can; the size of a third one is not known. -/
def showFiles : List ListedFile :=
  [{ path := .ofString "tv/show.mkv", size := 10 },
    { path := .ofString "tv/show.sample.mkv", isMissing := true },
    { path := .ofString "tv/Show.Big.mp4", size := 500 },
    { path := .ofString "tv/show.big.en.srt" },
    { path := .ofString "tv/show.nfo" },
    { path := .ofString "tv/notes.txt" }]

theorem scan_shares_out_showFiles :
    let disk := Disk.ofList showFiles none
    let files := showFiles.map ListedFile.path
    disk.list (.ofString "tv") true (fun _ => false) = .ok files ∧
      ∃ sets primaries, scan disk (.ofString "tv") true (fun _ => false) = .ok sets ∧
        primaries.Perm (files.filter fun path => path.isMedia && (disk.size? path).isSome) ∧
        ∃ emitted left, Emits sets emitted left ∧ left.next? false = none ∧
          emitted.map FileSet.primary = primaries ∧
          (emitted.flatMap FileSet.companions ++ left.unclaimed).Perm
            (files.filter fun path => !path.isMedia) := by
  intro disk files
  have listed : disk.list (.ofString "tv") true (fun _ => false) = .ok files := rfl
  obtain ⟨sets, primaries, scanned, media, _, _, ⟨emitted, left, emits, exhausted⟩, always⟩ :=
    scan_shares_out_listing disk (.ofString "tv") true (fun _ => false) files listed
  obtain ⟨_, others, _, complete⟩ := always emitted left emits
  exact ⟨listed, sets, primaries, scanned, media, emitted, left, emits, exhausted,
    (complete exhausted).1, others⟩

end FileSets
end Curator
