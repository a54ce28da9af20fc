import Curator.Feed.Document
import Curator.Proofs.Feed.RatingScale
import Curator.Proofs.Text.Trim

/-! Releases from the items of a feed. An item leads to at most one release, which it decides alone,
and whatever the item says, the release is well formed. One item alone can spoil the feed: the one
with the rating from which no steps can be counted. -/
namespace Curator

theorem bind_eq_ok_iff {ε α β : Type} {first : Except ε α} {next : α → Except ε β} {result : β} :
    first >>= next = .ok result ↔ ∃ value, first = .ok value ∧ next value = .ok result := by
  cases first with
  | error reason =>
    constructor
    · intro found
      cases found
    · rintro ⟨_, impossible, _⟩
      cases impossible
  | ok value =>
    constructor
    · exact fun found => ⟨value, rfl, found⟩
    · rintro ⟨_, known, found⟩
      cases known
      exact found

theorem bind_eq_error_iff {ε α β : Type} {first : Except ε α} {next : α → Except ε β} {reason : ε} :
    first >>= next = .error reason ↔
      first = .error reason ∨ ∃ value, first = .ok value ∧ next value = .error reason := by
  cases first with
  | error other =>
    constructor
    · intro failed
      cases failed
      exact .inl rfl
    · rintro (failed | ⟨_, impossible, _⟩)
      · cases failed
        rfl
      · cases impossible
  | ok value =>
    constructor
    · exact fun failed => .inr ⟨value, rfl, failed⟩
    · rintro (impossible | ⟨_, known, failed⟩)
      · cases impossible
      · cases known
        exact failed

theorem toOption_eq_some_iff {ε α : Type} {outcome : Except ε α} {value : α} :
    outcome.toOption = some value ↔ outcome = .ok value := by
  cases outcome <;> simp [Except.toOption]

theorem mapError_eq_ok_iff {ε ε' α : Type} {outcome : Except ε α} {report : ε → ε'} {value : α} :
    outcome.mapError report = .ok value ↔ outcome = .ok value := by
  cases outcome <;> simp [Except.mapError]

theorem mapError_reported_ne_crashed {ε α : Type} (outcome : Except ε α) :
    outcome.mapError Failure.reported ≠ .error .crashed := by
  cases outcome <;> simp [Except.mapError]

namespace FeedItem

/-- No attribute of an item has a name, in any case and in either namespace. -/
def Omits (item : FeedItem) (name : String) : Prop :=
  ∀ extension ∈ item.extensions, extension.space ∈ attributeSpaces.map String.toList →
    extension.name = "attr".toList → ∀ stated, statedValue? "name" extension = some stated →
      Text.equalsIgnoringCase stated name.toList = false

theorem mem_attributes_iff {item : FeedItem} {extension : Extension} :
    extension ∈ item.attributes ↔ extension ∈ item.extensions ∧
      extension.space ∈ attributeSpaces.map String.toList ∧ extension.name = "attr".toList := by
  simp only [attributes, List.mem_flatMap, List.mem_filter, Bool.and_eq_true, beq_iff_eq,
    List.mem_map]
  constructor
  · rintro ⟨space, known, member, same, named⟩
    exact ⟨member, ⟨space, known, same.symm⟩, named⟩
  · rintro ⟨member, ⟨space, known, same⟩, named⟩
    exact ⟨space, known, member, same.symm, named⟩

theorem attribute?_eq_none_of_omits {item : FeedItem} {name : String} (omits : item.Omits name) :
    item.attribute? name = none := by
  have missing : item.attributes.find? (fun extension =>
      (statedValue? "name" extension).any (Text.equalsIgnoringCase · name.toList)) = none := by
    refine List.find?_eq_none.mpr fun extension member named => ?_
    obtain ⟨own, space, isAttribute⟩ := mem_attributes_iff.mp member
    obtain ⟨stated, known, same⟩ := (Option.any_eq_true _ _).mp named
    rw [omits extension own space isAttribute stated known] at same
    cases same
  rw [attribute?, missing]
  rfl

end FeedItem

namespace UserRatings

/-- The counts among the ratings, under the names of their attributes. -/
def counts : List (String × (UserRatings → Option UInt32)) :=
  [("oz_up_votes", upVotes), ("oz_down_votes", downVotes),
    ("oz_num_spam_reports", spamReports), ("oz_num_passworded_reports", passwordedReports)]

/-- The ratings of picture and sound, under the names of their attributes. -/
def qualities : List (String × (UserRatings → Option Binary64)) :=
  [("oz_video_quality_rating", videoRating), ("oz_audio_quality_rating", audioRating)]

/-- What holds of the ratings that are shown for an item. A count or a rating about which the item
says nothing is absent, and no other one is. -/
structure AreShownFor (ratings : UserRatings) (item : FeedItem) : Prop where
  isSpam : ratings.isSpam = false
  isPassworded : ratings.isPassworded = false
  unconfirmed : ∀ name ∈ ["oz_spam_confirmed", "oz_passworded_confirmed"],
    Rating.readFlag (item.attribute? name) = false
  count_eq_none_iff : ∀ entry ∈ counts,
    entry.2 ratings = none ↔ Rating.SaysNothing (item.attribute? entry.1)
  quality_eq_none_iff : ∀ entry ∈ qualities,
    entry.2 ratings = none ↔ Rating.SaysNothing (item.attribute? entry.1)
  isShare_quality : ∀ entry ∈ qualities, ∀ rating, entry.2 ratings = some rating → rating.IsShare

end UserRatings

namespace FeedItem

/-- Every count and every rating is read from the attribute of its name. -/
theorem reads_of_userRatings {item : FeedItem} {ratings : UserRatings}
    (read : item.userRatings = .ok ratings) :
    (∀ entry ∈ UserRatings.counts,
      Rating.readCount (item.attribute? entry.1) = .ok (entry.2 ratings)) ∧
    (∀ entry ∈ UserRatings.qualities,
      Rating.read (item.attribute? entry.1) Rating.defaultCeiling = .ok (entry.2 ratings)) ∧
    ratings.isSpam = Rating.readFlag (item.attribute? "oz_spam_confirmed") ∧
    ratings.isPassworded = Rating.readFlag (item.attribute? "oz_passworded_confirmed") := by
  unfold userRatings at read
  dsimp only at read
  obtain ⟨up, upRead, read⟩ := bind_eq_ok_iff.mp read
  obtain ⟨down, downRead, read⟩ := bind_eq_ok_iff.mp read
  obtain ⟨video, videoRead, read⟩ := bind_eq_ok_iff.mp read
  obtain ⟨audio, audioRead, read⟩ := bind_eq_ok_iff.mp read
  obtain ⟨spam, spamRead, read⟩ := bind_eq_ok_iff.mp read
  obtain ⟨passworded, passwordedRead, read⟩ := bind_eq_ok_iff.mp read
  obtain rfl := Except.ok.inj read
  rw [mapError_eq_ok_iff] at upRead downRead spamRead passwordedRead
  refine ⟨?_, ?_, rfl, rfl⟩
  · simpa only [UserRatings.counts, List.forall_mem_cons, List.not_mem_nil, false_implies,
      implies_true, and_true] using ⟨upRead, downRead, spamRead, passwordedRead⟩
  · simpa only [UserRatings.qualities, List.forall_mem_cons, List.not_mem_nil, false_implies,
      implies_true, and_true] using ⟨videoRead, audioRead⟩

/-- Reading the ratings goes on in two ways: without any, or with usable ones. -/
theorem ratings_eq_ok_iff {item : FeedItem} {isRated : Bool} {ratings : Option UserRatings} :
    item.ratings isRated = .ok ratings ↔
      isRated = false ∧ ratings = none ∨
        isRated = true ∧ ∃ own, item.userRatings = .ok own ∧ own.isUnusable = false ∧
          ratings = some own := by
  unfold FeedItem.ratings
  cases isRated with
  | false => simp [@eq_comm _ none]
  | true =>
    cases item.userRatings with
    | error failure => cases failure <;> simp
    | ok own => cases unusable : own.isUnusable <;> simp [unusable, @eq_comm _ (some own)]

/-- An item rates the picture or the sound with the number from which no steps can be counted. -/
def RatesLeast (item : FeedItem) : Prop :=
  ∃ entry ∈ UserRatings.qualities, ∃ written, item.attribute? entry.1 = some written ∧
    Rating.ReadsAs written Rating.leastValue

theorem ratesLeast_of_userRatings {item : FeedItem}
    (crashed : item.userRatings = .error .crashed) : item.RatesLeast := by
  have rated {entry : String × (UserRatings → Option Binary64)}
      (member : entry ∈ UserRatings.qualities)
      (broken : Rating.read (item.attribute? entry.1) Rating.defaultCeiling = .error .crashed) :
      item.RatesLeast :=
    ⟨entry, member, Rating.read_eq_crashed_iff.mp broken⟩
  have counted {name : String} :
      (Rating.readCount (item.attribute? name)).mapError Failure.reported ≠ .error .crashed :=
    mapError_reported_ne_crashed _
  unfold userRatings at crashed
  dsimp only at crashed
  obtain ⟨_, _, crashed⟩ := (bind_eq_error_iff.mp crashed).resolve_left counted
  obtain ⟨_, _, crashed⟩ := (bind_eq_error_iff.mp crashed).resolve_left counted
  obtain broken | ⟨_, _, crashed⟩ := bind_eq_error_iff.mp crashed
  · exact rated List.mem_cons_self broken
  obtain broken | ⟨_, _, crashed⟩ := bind_eq_error_iff.mp crashed
  · exact rated (List.mem_cons_of_mem _ List.mem_cons_self) broken
  obtain ⟨_, _, crashed⟩ := (bind_eq_error_iff.mp crashed).resolve_left counted
  obtain ⟨_, _, crashed⟩ := (bind_eq_error_iff.mp crashed).resolve_left counted
  cases crashed

theorem ratings_eq_crashed_iff {item : FeedItem} {isRated : Bool} :
    item.ratings isRated = .error .crashed ↔
      isRated = true ∧ item.userRatings = .error .crashed := by
  unfold FeedItem.ratings
  cases isRated with
  | false => simp
  | true =>
    cases item.userRatings with
    | error failure => cases failure <;> simp
    | ok own => cases unusable : own.isUnusable <;> simp [unusable]

theorem isSome_of_ratings {item : FeedItem} {isRated : Bool} {ratings : Option UserRatings}
    (read : item.ratings isRated = .ok ratings) : ratings.isSome = isRated := by
  rcases ratings_eq_ok_iff.mp read with ⟨rfl, rfl⟩ | ⟨rfl, own, _, _, rfl⟩
  · rfl
  · rfl

theorem areShownFor_of_ratings {item : FeedItem} {isRated : Bool} {ratings : UserRatings}
    (read : item.ratings isRated = .ok (some ratings)) : ratings.AreShownFor item := by
  obtain ⟨_, ⟨⟩⟩ | ⟨_, own, known, usable, same⟩ := ratings_eq_ok_iff.mp read
  obtain rfl := Option.some.inj same
  obtain ⟨countRead, qualityRead, spam, passworded⟩ := reads_of_userRatings known
  obtain ⟨notSpam, notPassworded⟩ := Bool.or_eq_false_iff.mp usable
  exact
    { isSpam := notSpam
      isPassworded := notPassworded
      unconfirmed := by
        simpa only [List.forall_mem_cons, List.not_mem_nil, false_implies, implies_true,
          and_true, ← spam, ← passworded] using ⟨notSpam, notPassworded⟩
      count_eq_none_iff := by
        intro entry member
        rw [← Rating.readCount_eq_ok_none_iff, countRead entry member, Except.ok.injEq]
      quality_eq_none_iff := by
        intro entry member
        rw [← Rating.read_eq_ok_none_iff, qualityRead entry member, Except.ok.injEq]
      isShare_quality := by
        intro entry member rating shown
        have known := qualityRead entry member
        rw [shown] at known
        exact Rating.isShare_read known }

theorem releaseTitle_eq_ok_iff {item : FeedItem} {title : FeedText} :
    item.releaseTitle = .ok title ↔ item.title.map Text.trim = some title ∧ title ≠ [] := by
  unfold releaseTitle
  rcases item.title.map Text.trim with _ | _ | ⟨first, rest⟩
  · exact iff_of_false (by simp) (by simp)
  · exact iff_of_false (by simp) (by simp +contextual [eq_comm])
  · simp +contextual [eq_comm]

theorem downloadUrl_eq_ok_iff {item : FeedItem} {url : FeedText} :
    item.downloadUrl = .ok url ↔ (item.enclosureUrl <|> item.link) = some url ∧ url ≠ [] := by
  unfold downloadUrl
  rcases (item.enclosureUrl <|> item.link) with _ | _ | ⟨first, rest⟩
  · exact iff_of_false (by simp) (by simp)
  · exact iff_of_false (by simp) (by simp +contextual [eq_comm])
  · simp +contextual [eq_comm]

end FeedItem

/-- What holds of every release that an item of a source stands for. -/
structure Release.IsWellFormed (release : Release) (source : Source) (item : FeedItem) : Prop where
  title : item.title.map Text.trim = some release.title
  title_ne_nil : release.title ≠ []
  isTrimmed_title : Text.IsTrimmed release.title
  downloadUrl : (item.enclosureUrl <|> item.link) = some release.downloadUrl
  downloadUrl_ne_nil : release.downloadUrl ≠ []
  sourceId : release.sourceId = source.id
  sourceName : release.source = source.name
  weight : release.weight = source.weight
  isSome_ratings : release.ratings.isSome = source.reportsUserRatings
  ratings : ∀ ratings, release.ratings = some ratings → ratings.AreShownFor item

theorem FeedItem.isWellFormed_of_release {source : Source} {item : FeedItem} {release : Release}
    (read : item.release source = .ok release) : release.IsWellFormed source item := by
  unfold FeedItem.release at read
  obtain ⟨title, titleRead, read⟩ := bind_eq_ok_iff.mp read
  obtain ⟨ratings, ratingsRead, read⟩ := bind_eq_ok_iff.mp read
  obtain ⟨url, urlRead, read⟩ := bind_eq_ok_iff.mp read
  obtain ⟨size, _, read⟩ := bind_eq_ok_iff.mp read
  obtain ⟨date, _, read⟩ := bind_eq_ok_iff.mp read
  obtain rfl := Except.ok.inj read
  obtain ⟨stated, titleShown⟩ := releaseTitle_eq_ok_iff.mp (mapError_eq_ok_iff.mp titleRead)
  obtain ⟨found, urlShown⟩ := downloadUrl_eq_ok_iff.mp (mapError_eq_ok_iff.mp urlRead)
  exact
    { title := stated
      title_ne_nil := titleShown
      isTrimmed_title := by
        obtain ⟨written, _, rfl⟩ := Option.map_eq_some_iff.mp stated
        exact Text.isTrimmed_trim written
      downloadUrl := found
      downloadUrl_ne_nil := urlShown
      sourceId := rfl
      sourceName := rfl
      weight := rfl
      isSome_ratings := isSome_of_ratings ratingsRead
      ratings := by
        rintro own rfl
        exact areShownFor_of_ratings ratingsRead }

/-- An item breaks the reading only through its ratings, where its source has any. -/
theorem FeedItem.ratesLeast_of_release {source : Source} {item : FeedItem}
    (crashed : item.release source = .error .crashed) :
    source.reportsUserRatings = true ∧ item.RatesLeast := by
  have stated {α : Type} (outcome : Except Omission α) :
      outcome.mapError Failure.reported ≠ .error .crashed := mapError_reported_ne_crashed outcome
  unfold FeedItem.release at crashed
  obtain ⟨_, _, crashed⟩ := (bind_eq_error_iff.mp crashed).resolve_left (stated _)
  obtain broken | ⟨_, _, crashed⟩ := bind_eq_error_iff.mp crashed
  · obtain ⟨rated, broken⟩ := FeedItem.ratings_eq_crashed_iff.mp broken
    exact ⟨rated, FeedItem.ratesLeast_of_userRatings broken⟩
  obtain ⟨_, _, crashed⟩ := (bind_eq_error_iff.mp crashed).resolve_left (stated _)
  obtain ⟨_, _, crashed⟩ := (bind_eq_error_iff.mp crashed).resolve_left (stated _)
  obtain ⟨_, _, crashed⟩ := (bind_eq_error_iff.mp crashed).resolve_left (stated _)
  cases crashed

namespace FeedDocument

/-- A document is a feed with some items, and no refusal. -/
structure HasItems (bytes : List UInt8) (items : List FeedItem) : Prop where
  noRefusal : ErrorDocument.read? (Text.decodeUtf8Lossy bytes) = none
  isFeed : Rss.items? (.ofBytes bytes) = some items

variable {source : Source} {bytes : List UInt8} {items : List FeedItem} {item : FeedItem}
  {release : Release}

/-- The releases that items of a source stand for, each item taken alone. -/
def kept (source : Source) (items : List FeedItem) : List Release :=
  items.filterMap fun item => (item.release source).toOption

/-- Items of which none breaks the reading. -/
def AreSound (source : Source) (items : List FeedItem) : Prop :=
  ∀ item ∈ items, item.release source ≠ .error .crashed

theorem releases_of_hasItems (feed : HasItems bytes items) :
    releases source bytes = releasesOfItems source items := by
  unfold releases
  rw [feed.noRefusal, feed.isFeed]

theorem kept_append (before after : List FeedItem) :
    kept source (before ++ after) = kept source before ++ kept source after :=
  List.filterMap_append

theorem areSound_of_isUnrated (unrated : source.reportsUserRatings = false)
    (items : List FeedItem) : AreSound source items := by
  intro item _ crashed
  obtain ⟨rated, _⟩ := item.ratesLeast_of_release crashed
  rw [unrated] at rated
  cases rated

theorem releasesOfItems_of_areSound (sound : AreSound source items) :
    releasesOfItems source items = .ok (kept source items) := by
  induction items with
  | nil => rfl
  | cons item items ih =>
    obtain ⟨own, others⟩ := List.forall_mem_cons.mp sound
    have behind := ih others
    cases outcome : item.release source with
    | ok release => simp only [releasesOfItems, kept, List.filterMap_cons, outcome, behind,
        Except.toOption, Except.map]
    | error failure =>
      cases failure with
      | reported reason => simp only [releasesOfItems, kept, List.filterMap_cons, outcome, behind,
          Except.toOption]
      | crashed => exact absurd outcome own

theorem releasesOfItems_of_crashed (member : item ∈ items)
    (crashed : item.release source = .error .crashed) :
    releasesOfItems source items = .error .crashed := by
  induction items with
  | nil => cases member
  | cons first items ih =>
    obtain rfl | behind := List.mem_cons.mp member
    · simp only [releasesOfItems, crashed]
    · rw [releasesOfItems, ih behind]
      cases first.release source with
      | ok release => rfl
      | error failure => cases failure <;> rfl

theorem releasesOfItems_eq_ok_iff {found : List Release} :
    releasesOfItems source items = .ok found ↔
      AreSound source items ∧ found = kept source items := by
  constructor
  · intro read
    have sound : AreSound source items := by
      intro item member crashed
      rw [releasesOfItems_of_crashed member crashed] at read
      cases read
    rw [releasesOfItems_of_areSound sound] at read
    exact ⟨sound, (Except.ok.inj read).symm⟩
  · rintro ⟨sound, rfl⟩
    exact releasesOfItems_of_areSound sound

theorem exists_item_of_mem_kept (member : release ∈ kept source items) :
    ∃ item ∈ items, item.release source = .ok release := by
  obtain ⟨item, own, read⟩ := List.mem_filterMap.mp member
  exact ⟨item, own, toOption_eq_some_iff.mp read⟩

/-- A document of which there are releases is a feed with their items. -/
theorem exists_item_of_mem_releases {found : List Release}
    (read : releases source bytes = .ok found) (member : release ∈ found) :
    ∃ items, HasItems bytes items ∧ ∃ item ∈ items, item.release source = .ok release := by
  unfold releases at read
  cases refused : ErrorDocument.read? (Text.decodeUtf8Lossy bytes) with
  | some error =>
    simp only [refused] at read
    split at read
    · obtain rfl := Except.ok.inj read
      cases member
    · cases read
  | none =>
    cases known : Rss.items? (.ofBytes bytes) with
    | none =>
      simp only [refused, known] at read
      cases read
    | some items =>
      simp only [refused, known] at read
      obtain ⟨_, rfl⟩ := releasesOfItems_eq_ok_iff.mp read
      exact ⟨items, ⟨refused, known⟩, exists_item_of_mem_kept member⟩

/-- The releases of a feed are those of its items, each taken alone and in their order: none where
the item cannot be used, else one. So items that are put in, left out or changed make no difference
to what the others lead to, as long as none of them breaks the reading, which ends the whole of it.
Only an item with the least rating does, where its source has ratings. Every release is well formed,
and a count that the item does not state is absent. -/
theorem releases_itemwise (source : Source) :
    (∀ bytes items, HasItems bytes items →
      (∀ item ∈ items, item.release source ≠ .error .crashed) →
      releases source bytes =
        .ok (items.flatMap fun item => (item.release source).toOption.toList)) ∧
    (∀ bytes items, HasItems bytes items → ∀ item ∈ items,
      item.release source = .error .crashed → releases source bytes = .error .crashed) ∧
    (∀ item : FeedItem, item.release source = .error .crashed →
      source.reportsUserRatings = true ∧ item.RatesLeast) ∧
    (∀ bytes changed before middle replaced after found other,
      HasItems bytes (before ++ middle ++ after) →
      HasItems changed (before ++ replaced ++ after) →
      releases source bytes = .ok found → releases source changed = .ok other →
        found = kept source before ++ kept source middle ++ kept source after ∧
        other = kept source before ++ kept source replaced ++ kept source after) ∧
    (∀ bytes found, releases source bytes = .ok found → ∀ release ∈ found,
      ∃ items, HasItems bytes items ∧ ∃ item ∈ items, item.release source = .ok release ∧
        release.IsWellFormed source item) ∧
    ∀ (item : FeedItem) name, item.Omits name → Rating.SaysNothing (item.attribute? name) := by
  refine ⟨?_, ?_, fun item => item.ratesLeast_of_release, ?_, ?_, ?_⟩
  · intro bytes items feed sound
    rw [releases_of_hasItems feed, releasesOfItems_of_areSound sound, kept,
      List.filterMap_eq_flatMap_toList]
  · intro bytes items feed item member crashed
    rw [releases_of_hasItems feed, releasesOfItems_of_crashed member crashed]
  · intro bytes changed before middle replaced after found other feed changedFeed read changedRead
    rw [releases_of_hasItems feed, releasesOfItems_eq_ok_iff] at read
    rw [releases_of_hasItems changedFeed, releasesOfItems_eq_ok_iff] at changedRead
    rw [read.2, changedRead.2]
    simp only [kept_append, and_self]
  · intro bytes found read release member
    obtain ⟨items, feed, item, own, itemRead⟩ := exists_item_of_mem_releases read member
    exact ⟨items, feed, item, own, itemRead, item.isWellFormed_of_release itemRead⟩
  · intro item name omits written known
    rw [FeedItem.attribute?_eq_none_of_omits omits] at known
    cases known

/-- A feed of an item of which the votes are a dash, and of some items behind it. -/
def dashedFeed (behind : String) : List UInt8 :=
  ("<rss><channel><item><title>Show</title><link>/s</link>" ++
    "<pubDate>1 Jan 2018 00:00 Z</pubDate><newznab:attr name=\"oz_up_votes\" value=\"-\"/></item>" ++
    behind ++ "</channel></rss>").toUTF8.toList

def dashedItem : FeedItem :=
  { title := some "Show".toList, link := some "/s".toList
    publicationDate := some "1 Jan 2018 00:00 Z".toList
    extensions := [
      { space := "newznab".toList, name := "attr".toList
        attributes := [("name".toList, "oz_up_votes".toList), ("value".toList, ['-'])] }] }

/-- Behind an item with a dash for its votes comes one without a title, or nothing. Both feeds have
the one release, whose votes are absent. -/
theorem releases_itemwise_of_dashedFeed :
    let source : Source := { id := 1, name := ['o'], url := "https://oznzb.com".toList }
    let untitled : FeedItem := { link := some "/u".toList }
    HasItems (dashedFeed "<item><link>/u</link></item>") ([dashedItem] ++ [untitled] ++ []) ∧
    HasItems (dashedFeed "") ([dashedItem] ++ [] ++ []) ∧
    untitled.release source = .error (.reported .noTitle) ∧
    ∃ release, dashedItem.release source = .ok release ∧
      releases source (dashedFeed "<item><link>/u</link></item>") = .ok [release] ∧
      releases source (dashedFeed "") = .ok [release] ∧
      release.IsWellFormed source dashedItem ∧
      ∃ ratings, release.ratings = some ratings ∧ ratings.upVotes = none ∧
        ratings.downVotes = none := by
  intro source untitled
  obtain ⟨itemwise, _, _, _, wellFormed, omitted⟩ := releases_itemwise source
  have longer : HasItems (dashedFeed "<item><link>/u</link></item>")
      ([dashedItem] ++ [untitled] ++ []) :=
    ⟨by decide +kernel, by decide +kernel⟩
  have shorter : HasItems (dashedFeed "") ([dashedItem] ++ [] ++ []) :=
    ⟨by decide +kernel, by decide +kernel⟩
  have useless : untitled.release source = .error (.reported .noTitle) := rfl
  obtain ⟨release, useful⟩ : ∃ release, dashedItem.release source = .ok release :=
    ⟨{ title := "Show".toList, downloadUrl := "/s".toList, publishDate := .ofSeconds 1514764800
       sourceId := 1, source := ['o'], ratings := some {} }, by decide +kernel⟩
  have longerRead := itemwise _ _ longer (by simp [useful, useless])
  have shorterRead := itemwise _ _ shorter (by simp [useful])
  simp only [List.cons_append, List.nil_append, List.flatMap_cons, List.flatMap_nil, useful,
    useless, Except.toOption, Option.toList] at longerRead shorterRead
  obtain ⟨items, feed, item, own, _, good⟩ :=
    wellFormed _ _ shorterRead release (List.mem_singleton_self release)
  obtain rfl := Option.some.inj (shorter.isFeed.symm.trans feed.isFeed)
  obtain rfl : item = dashedItem := List.mem_singleton.mp own
  refine ⟨longer, shorter, useless, release, useful, longerRead, shorterRead, good, ?_⟩
  obtain ⟨ratings, shown⟩ : ∃ ratings, release.ratings = some ratings :=
    Option.isSome_iff_exists.mp (good.isSome_ratings.trans (by decide +kernel))
  have absent := (good.ratings ratings shown).count_eq_none_iff
  refine ⟨ratings, shown, ?_, ?_⟩
  · refine (absent _ (List.mem_cons_self)).mpr fun written known => .inr ?_
    obtain rfl : ['-'] = written := Option.some.inj (by rw [← known]; decide +kernel)
    decide +kernel
  · refine (absent _ (List.mem_cons_of_mem _ List.mem_cons_self)).mpr (omitted _ _ ?_)
    unfold FeedItem.Omits
    decide +kernel

/-- An item without an address, of which no steps can be counted to its rating. -/
def leastItem : FeedItem :=
  { title := some "Bad".toList
    extensions := [
      { space := "newznab".toList, name := "attr".toList
        attributes := [("name".toList, "oz_video_quality_rating".toList),
          ("value".toList, "-9223372036854775808".toList)] }] }

def spoiltFeed : List UInt8 :=
  dashedFeed ("<item><title>Bad</title><newznab:attr " ++
    "name=\"oz_video_quality_rating\" value=\"-9223372036854775808\"/></item>")

/-- The item takes the good release before it with it. -/
theorem releases_break_on_leastItem :
    let source : Source := { id := 1, name := ['o'], url := "https://oznzb.com".toList }
    HasItems spoiltFeed [dashedItem, leastItem] ∧ HasItems (dashedFeed "") [dashedItem] ∧
      leastItem.downloadUrl = .error .noAddress ∧
      (∃ release, releases source (dashedFeed "") = .ok [release]) ∧
      releases source spoiltFeed = .error .crashed := by
  intro source
  have feed : HasItems spoiltFeed [dashedItem, leastItem] := ⟨by decide +kernel, by decide +kernel⟩
  have good : HasItems (dashedFeed "") [dashedItem] := ⟨by decide +kernel, by decide +kernel⟩
  refine ⟨feed, good, rfl, ?_, ?_⟩
  · refine ⟨{
      title := "Show".toList, downloadUrl := "/s".toList, publishDate := .ofSeconds 1514764800
      sourceId := 1, source := ['o'], ratings := some {} }, ?_⟩
    rw [releases_of_hasItems good]
    decide +kernel
  · rw [releases_of_hasItems feed]
    decide +kernel

end FeedDocument

end Curator
