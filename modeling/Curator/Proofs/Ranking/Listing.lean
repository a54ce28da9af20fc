import Curator.CommandLine.Run
import Curator.Proofs.Ranking.Preference

/-! The listing of a saved feed. Tiers are the part of the comparison of ratings that sorts: where
two of them differ, they decide it. So the listing has every release once, by descending tier, and
never a better liked release below a worse one of another tier. -/
namespace Curator.Ranking

theorem Tier.compare_eq_iff {left right : Tier} : left.compare right = .eq ↔ left = right := by
  have bool_eq_iff : ∀ first second : Bool, compareBool first second = .eq ↔ first = second := by
    decide
  have votes_eq_iff (first second : VoteClass) :
      Ord.compare first.rank second.rank = .eq ↔ first = second := by
    cases first <;> cases second <;> decide
  rw [Tier.compare, Ordering.then_eq_eq, Ordering.then_eq_eq, bool_eq_iff, bool_eq_iff,
    votes_eq_iff]
  cases left
  cases right
  simp only [Tier.mk.injEq]

theorem compareRatings_of_tier_ne {left right : Option UserRatings}
    (differ : tier left ≠ tier right) :
    compareRatings left right = (tier left).compare (tier right) := by
  rw [compareRatings_eq]
  cases decided : (tier left).compare (tier right) with
  | eq => exact absurd (Tier.compare_eq_iff.mp decided) differ
  | lt | gt => rfl

section
variable {α : Type} (ratings : α → Option UserRatings)

private theorem transCmp_tier :
    Std.TransCmp fun left right : α =>
      (tier (ratings right)).compare (tier (ratings left)) where
  eq_swap := Std.OrientedCmp.eq_swap
  isLE_trans first second := Std.TransCmp.isLE_trans second first

theorem sortByTier_perm (items : List α) : (sortByTier ratings items).Perm items :=
  List.mergeSort_perm items _

theorem sortByTier_descending (items : List α) :
    (sortByTier ratings items).Pairwise fun upper lower =>
      (tier (ratings lower)).compare (tier (ratings upper)) ≠ .gt :=
  have := transCmp_tier ratings
  pairwise_sorted _ items

theorem sortByTier_stable (items : List α) (own : Tier) :
    (sortByTier ratings items).filter (fun item => tier (ratings item) = own) =
      items.filter fun item => tier (ratings item) = own := by
  have := transCmp_tier ratings
  apply filter_sorted fun left right : α => (tier (ratings right)).compare (tier (ratings left))
  intro first second firstOwn secondOwn
  rw [decide_eq_true_eq] at firstOwn secondOwn
  rw [firstOwn, secondOwn]
  exact Tier.compare_eq_iff.mpr rfl

end

open CommandLine

/-- A text at the right end of a column that is as wide as it should be, or as the text. -/
def IsCell (width : Nat) (text cell : String) : Prop :=
  ∃ blanks, cell = "".pushn ' ' blanks ++ text ∧ cell.length = max width text.length

/-- A line about a release: its size, its age in days and its votes, each at the right end of a
column, and then its title. -/
def IsLineOf (now : Timestamp) (release : Release) (line : String) : Prop :=
  ∃ size age votes,
    IsCell 10 (DisplayedSize.render release.size) size ∧
    IsCell 5 (toString (release.ageDays now) ++ "d") age ∧
    IsCell 9 release.renderVotes votes ∧
    line = size ++ "  " ++ age ++ "  " ++ votes ++ "  " ++ String.ofList release.title

theorem IsCell.unique {width : Nat} {text cell other : String} (shows : IsCell width text cell)
    (same : IsCell width text other) : cell = other := by
  obtain ⟨blanks, rfl, fits⟩ := shows
  obtain ⟨others, rfl, sameFits⟩ := same
  have alike := fits.trans sameFits.symm
  simp only [String.length_append, String.length_pushn, Nat.add_right_cancel_iff,
    Nat.add_left_cancel_iff] at alike
  rw [alike]

theorem IsLineOf.unique {now : Timestamp} {release : Release} {line other : String}
    (shows : IsLineOf now release line) (same : IsLineOf now release other) : line = other := by
  obtain ⟨size, age, votes, ofSize, ofAge, ofVotes, rfl⟩ := shows
  obtain ⟨size', age', votes', ofSize', ofAge', ofVotes', rfl⟩ := same
  rw [ofSize.unique ofSize', ofAge.unique ofAge', ofVotes.unique ofVotes']

theorem isCell_padLeft_append (width : Nat) (text unit : String) :
    IsCell (width + unit.length) (text ++ unit) (Text.padLeft width text ++ unit) := by
  refine ⟨width - text.length, String.append_assoc, ?_⟩
  simp only [Text.padLeft, String.length_append, String.length_pushn, String.length_empty]
  omega

theorem isCell_padLeft (width : Nat) (text : String) :
    IsCell width text (Text.padLeft width text) := by
  simpa using isCell_padLeft_append width text ""

theorem isLineOf_releaseRow (now : Timestamp) (release : Release) :
    IsLineOf now release (Report.releaseRow now release) := by
  refine ⟨_, _, _, isCell_padLeft 10 _, isCell_padLeft_append 4 _ "d", isCell_padLeft 9 _, ?_⟩
  simp only [Report.releaseRow, Report.row, String.intercalate_cons_cons,
    String.intercalate_singleton, String.append_assoc]

theorem forall₂_releaseRow (now : Timestamp) (releases : List Release) :
    List.Forall₂ (IsLineOf now) releases (releases.map (Report.releaseRow now)) := by
  rw [List.forall₂_map_right_iff]
  exact List.forall₂_same.mpr fun release _ => isLineOf_releaseRow now release

/-- Whoever asks for the listing of a saved feed sees its releases between a header and their
number. -/
theorem run_feed {σ : Type} {surroundings : Surroundings σ} {arguments : List (List Char)}
    {settingsFile : Option Path} {settings : Settings} {file : Path} {url : List Char}
    {document : List UInt8} {releases : List Release}
    (asked : request? arguments = some (.run settingsFile (.feed file url)))
    (settled : CommandLine.settings surroundings settingsFile = .ok settings)
    (saved : surroundings.bytes? file = some document)
    (parsed : FeedDocument.releases (savedSource file url) document = .ok releases) :
    run surroundings arguments =
      { exitCode := 0
        lines := "      SIZE    AGE      VOTES  TITLE" ::
          (sortByTier Release.ratings releases).map (Report.releaseRow surroundings.now) ++
          [s!"{releases.length} releases"] } := by
  rw [run, asked]
  simp only [answer]
  rw [settled]
  simp only [carryOut, listReleases]
  rw [saved]
  dsimp only
  rw [parsed]
  dsimp only [Response.ofOutcome, Report.releases]
  rfl

/-- Where tiers differ, the comparison of ratings is that of the tiers. So whoever asks for the
listing of a saved feed sees each of its releases on one line, by descending tier and within a tier
in the order of the feed; a release that is liked better than one above it is of the same tier. -/
theorem listing_by_tier :
    (∀ left right, tier left ≠ tier right →
      compareRatings left right = (tier left).compare (tier right)) ∧
    ∀ {σ : Type} (surroundings : Surroundings σ) (arguments : List (List Char))
      (settingsFile : Option Path) (settings : Settings) (file : Path) (url : List Char)
      (document : List UInt8) (releases : List Release),
      request? arguments = some (.run settingsFile (.feed file url)) →
      CommandLine.settings surroundings settingsFile = .ok settings →
      surroundings.bytes? file = some document →
      FeedDocument.releases (savedSource file url) document = .ok releases →
      ∃ (listed : List Release) (rows : List String),
        run surroundings arguments =
          { exitCode := 0
            lines := "      SIZE    AGE      VOTES  TITLE" :: rows ++
              [s!"{releases.length} releases"] } ∧
        List.Forall₂ (IsLineOf surroundings.now) listed rows ∧
        listed.Perm releases ∧
        listed.Pairwise (fun upper lower =>
          (tier lower.ratings).compare (tier upper.ratings) ≠ .gt) ∧
        (∀ own : Tier, listed.filter (fun release => tier release.ratings = own) =
          releases.filter fun release => tier release.ratings = own) ∧
        listed.Pairwise fun upper lower => compareRatings upper.ratings lower.ratings = .lt →
          tier upper.ratings = tier lower.ratings := by
  refine ⟨fun left right => compareRatings_of_tier_ne, ?_⟩
  intro σ surroundings arguments settingsFile settings file url document releases asked settled
    saved parsed
  have descending := sortByTier_descending Release.ratings releases
  refine ⟨sortByTier Release.ratings releases, _, run_feed asked settled saved parsed,
    forall₂_releaseRow _ _, sortByTier_perm Release.ratings releases, descending,
    sortByTier_stable Release.ratings releases, ?_⟩
  refine descending.imp fun {upper lower} ordered better => ?_
  by_contra differ
  rw [compareRatings_of_tier_ne differ] at better
  exact ordered (Std.OrientedCmp.gt_of_lt better)

/-- A saved feed of two releases, of which the first one has votes against it. -/
def votedFeed : List UInt8 :=
  ("<rss><channel><item><title>Bad</title><pubDate>1 Jan 2018 00:00 Z</pubDate>" ++
    "<link>/b</link><newznab:attr name=\"size\" value=\"734003200\"/>" ++
    "<newznab:attr name=\"oz_up_votes\" value=\"1\"/>" ++
    "<newznab:attr name=\"oz_down_votes\" value=\"9\"/></item>" ++
    "<item><title>New</title><link>/n</link><pubDate>10 Jan 2018 00:00 Z</pubDate></item>" ++
    "</channel></rss>").toUTF8.toList

/-- What is read from the saved feed if its source reports votes. -/
def votedReleases : List Release :=
  [{ title := "Bad".toList, downloadUrl := "/b".toList, publishDate := .ofSeconds 1514764800
     size := 734003200, source := "saved".toList
     ratings := some { upVotes := some 1, downVotes := some 9 } },
    { title := "New".toList, downloadUrl := "/n".toList, publishDate := .ofSeconds 1515542400
      source := "saved".toList, ratings := some {} }]

/-- The listing of a saved feed in which the release that is liked worse comes first. -/
theorem listing_by_tier_of_votedFeed :
    let file : Path := .ofString "saved.xml"
    let url : List Char := "https://oznzb.com".toList
    let arguments := ["feed".toList, "--source-url".toList, url, "saved.xml".toList]
    let surroundings : Surroundings (List SourceStatus) :=
      { disk := .ofList [] none, bytes? := fun _ => some votedFeed, userSettings := none
        store := .memory, records := [], now := .ofSeconds 1515628800 }
    request? arguments = some (.run none (.feed file url)) ∧
    FeedDocument.releases (savedSource file url) votedFeed = .ok votedReleases ∧
    run surroundings arguments =
      { exitCode := 0
        lines :=
          ["      SIZE    AGE      VOTES  TITLE",
            "         ?     1d          -  New",
            " 700.0 MiB    10d      +1/-9  Bad",
            "2 releases"] } := by
  intro file url arguments surroundings
  have asked : request? arguments = some (.run none (.feed file url)) := by
    decide +kernel
  have parsed : FeedDocument.releases (savedSource file url) votedFeed = .ok votedReleases := by
    decide +kernel
  obtain ⟨listed, rows, shown, about, perm, descending, _⟩ :=
    listing_by_tier.2 surroundings _ _ {} _ _ _ _ asked rfl rfl parsed
  -- The tiers differ, so there is one order only.
  have turned : listed = votedReleases.reverse := by
    refine List.Perm.eq_of_pairwise ?_ descending ?_
      (perm.trans (List.reverse_perm votedReleases).symm)
    · have apart : ∀ upper ∈ votedReleases, ∀ lower ∈ votedReleases.reverse,
          (tier lower.ratings).compare (tier upper.ratings) ≠ .gt →
            (tier upper.ratings).compare (tier lower.ratings) ≠ .gt → upper = lower := by
        decide +kernel
      exact fun upper lower first second => apart upper (perm.subset first) lower second
    · decide +kernel
  rw [turned] at about
  have unique : Relator.RightUnique (IsLineOf surroundings.now) := fun _ _ _ => IsLineOf.unique
  obtain rfl : rows = votedReleases.reverse.map (Report.releaseRow surroundings.now) :=
    unique.forall₂ about (forall₂_releaseRow _ _)
  have written : votedReleases.reverse.map (Report.releaseRow surroundings.now) =
      ["         ?     1d          -  New", " 700.0 MiB    10d      +1/-9  Bad"] := by
    decide +kernel
  rw [shown, written]
  exact ⟨asked, parsed, rfl⟩

end Curator.Ranking
