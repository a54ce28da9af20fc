import Curator.Proofs.Feed.Items

/-! Where the releases of items are found. The link stands in for an enclosure that is not there; an
enclosure that is there but has no address leaves the release out, whatever the link says. -/
namespace Curator

namespace FeedItem

variable {source : Source} {item : FeedItem}

/-- An item says all that a release needs but for its address: it has a title and a date that can be
read, and states no size that cannot. -/
structure IsDescribed (item : FeedItem) : Prop where
  title : ∃ written, item.title = some written ∧ Text.trim written ≠ []
  date : ∃ written date, (item.attribute? "usenetdate" <|> item.publicationDate) = some written ∧
    PublicationDate.read? written = some date
  size : ∀ stated, item.attribute? "size" = some stated →
    ∃ size, Text.readUnsigned ReportedSize.greatest (Text.trim stated) = .ok size

theorem IsDescribed.exists_releaseTitle (described : item.IsDescribed) :
    ∃ title, item.releaseTitle = .ok title := by
  obtain ⟨written, stated, shown⟩ := described.title
  exact ⟨Text.trim written, releaseTitle_eq_ok_iff.mpr ⟨by rw [stated]; rfl, shown⟩⟩

theorem IsDescribed.exists_releaseSize (described : item.IsDescribed) :
    ∃ size, item.releaseSize = .ok size := by
  unfold releaseSize
  cases known : item.attribute? "size" with
  | none => exact ⟨_, rfl⟩
  | some stated =>
    obtain ⟨size, read⟩ := described.size stated known
    simp only [read]
    exact ⟨_, rfl⟩

theorem IsDescribed.exists_publishDate (described : item.IsDescribed) :
    ∃ date, item.publishDate = .ok date := by
  obtain ⟨written, date, stated, read⟩ := described.date
  unfold publishDate
  simp only [stated, read]
  exact ⟨date, rfl⟩

/-- Where users rate nothing, a described item is a release exactly if it has an address. -/
theorem IsDescribed.release_of_downloadUrl (described : item.IsDescribed)
    (unrated : source.reportsUserRatings = false) :
    (∀ url, item.downloadUrl = .ok url →
      ∃ release, item.release source = .ok release ∧ release.downloadUrl = url) ∧
    ∀ reason, item.downloadUrl = .error reason →
      item.release source = .error (.reported reason) := by
  obtain ⟨title, titleRead⟩ := described.exists_releaseTitle
  obtain ⟨size, sizeRead⟩ := described.exists_releaseSize
  obtain ⟨date, dateRead⟩ := described.exists_publishDate
  have ratingsRead : item.ratings source.reportsUserRatings = .ok none :=
    ratings_eq_ok_iff.mpr (.inl ⟨unrated, rfl⟩)
  constructor
  · intro url address
    refine ⟨{
      guid := item.guid, title, size, publishDate := date
      sourceId := source.id, source := source.name
      downloadUrl := url, infoUrl := item.infoUrl, tvId := item.tvId
      weight := source.weight, ratings := none }, ?_, rfl⟩
    rw [FeedItem.release, titleRead, ratingsRead, address, sizeRead, dateRead]
    rfl
  · intro reason missing
    rw [FeedItem.release, titleRead, ratingsRead, missing]
    rfl

end FeedItem

namespace FeedDocument

variable {source : Source} {bytes : List UInt8} {before after : List FeedItem} {item : FeedItem}

/-- Among the releases of a document is one for an item, with an address, between those of the items
before and behind it. -/
def Keeps (source : Source) (bytes : List UInt8) (before after : List FeedItem) (item : FeedItem)
    (url : FeedText) : Prop :=
  ∃ release, item.release source = .ok release ∧ release.downloadUrl = url ∧
    releases source bytes =
      .ok (kept source before ++ release :: kept source after)

/-- There is no release for an item, for lack of an address. -/
def LeavesOut (source : Source) (bytes : List UInt8) (before after : List FeedItem)
    (item : FeedItem) : Prop :=
  item.release source = .error (.reported .noAddress) ∧
    releases source bytes = .ok (kept source before ++ kept source after)

theorem releases_around (unrated : source.reportsUserRatings = false)
    (feed : HasItems bytes (before ++ item :: after)) :
    releases source bytes = .ok (kept source before ++ kept source (item :: after)) := by
  rw [releases_of_hasItems feed, releasesOfItems_of_areSound (areSound_of_isUnrated unrated _),
    kept_append]

theorem keeps_of_downloadUrl (unrated : source.reportsUserRatings = false)
    (feed : HasItems bytes (before ++ item :: after)) (described : item.IsDescribed)
    {url : FeedText} (address : item.downloadUrl = .ok url) :
    Keeps source bytes before after item url := by
  obtain ⟨release, read, found⟩ := (described.release_of_downloadUrl unrated).1 url address
  refine ⟨release, read, found, ?_⟩
  rw [releases_around unrated feed]
  simp only [kept, List.filterMap_cons, read, Except.toOption]

theorem leavesOut_of_downloadUrl (unrated : source.reportsUserRatings = false)
    (feed : HasItems bytes (before ++ item :: after)) (described : item.IsDescribed)
    (missing : item.downloadUrl = .error .noAddress) :
    LeavesOut source bytes before after item := by
  have read := (described.release_of_downloadUrl unrated).2 _ missing
  refine ⟨read, ?_⟩
  rw [releases_around unrated feed]
  simp only [kept, List.filterMap_cons, read, Except.toOption]

/-- A described item of a source without ratings is kept with the address of its enclosure, or with
its link where nothing is enclosed. It is left out where neither is there, and also where the
address of the enclosure is empty, even beside a link. -/
theorem releases_by_address (unrated : source.reportsUserRatings = false)
    (feed : HasItems bytes (before ++ item :: after)) (described : item.IsDescribed) :
    (∀ url, item.enclosureUrl = some url → url ≠ [] →
      Keeps source bytes before after item url) ∧
    (∀ url, item.enclosureUrl = none → item.link = some url → url ≠ [] →
      Keeps source bytes before after item url) ∧
    (item.enclosureUrl = some [] → LeavesOut source bytes before after item) ∧
    (item.enclosureUrl = none → item.link.getD [] = [] →
      LeavesOut source bytes before after item) := by
  have kept {url : FeedText} (found : (item.enclosureUrl <|> item.link) = some url)
      (shown : url ≠ []) : Keeps source bytes before after item url :=
    keeps_of_downloadUrl unrated feed described
      (FeedItem.downloadUrl_eq_ok_iff.mpr ⟨found, shown⟩)
  refine ⟨?_, ?_, ?_, ?_⟩
  · intro url enclosed shown
    exact kept (by rw [enclosed]; rfl) shown
  · intro url nothing linked shown
    exact kept (by rw [nothing, linked]; rfl) shown
  · intro enclosed
    refine leavesOut_of_downloadUrl unrated feed described ?_
    rw [FeedItem.downloadUrl, enclosed]
    rfl
  · intro nothing blank
    refine leavesOut_of_downloadUrl unrated feed described ?_
    rw [FeedItem.downloadUrl, nothing]
    cases linked : item.link with
    | none => rfl
    | some url =>
      obtain rfl : url = [] := by rwa [linked] at blank
      rfl

/-- A feed of one item that has a link, and an enclosure with some attributes. -/
def linkedFeed (attributes : String) : List UInt8 :=
  ("<rss><channel><item><title>Show</title><link>/s</link>" ++
    "<pubDate>1 Jan 2018 00:00 Z</pubDate><enclosure " ++ attributes ++
    "/></item></channel></rss>").toUTF8.toList

def linkedItem (enclosureUrl : String) : FeedItem :=
  { title := some "Show".toList, link := some "/s".toList
    publicationDate := some "1 Jan 2018 00:00 Z".toList
    enclosureUrl := some enclosureUrl.toList }

theorem releases_by_address_of_linkedFeed :
    let source : Source := { id := 1, name := ['i'], url := "https://i.example".toList }
    source.reportsUserRatings = false ∧
      HasItems (linkedFeed "url=\"/e\"") ([] ++ linkedItem "/e" :: []) ∧
      (linkedItem "/e").IsDescribed ∧
      Keeps source (linkedFeed "url=\"/e\"") [] [] (linkedItem "/e") "/e".toList := by
  intro source
  have unrated : source.reportsUserRatings = false := by decide +kernel
  have feed : HasItems (linkedFeed "url=\"/e\"") ([] ++ linkedItem "/e" :: []) :=
    ⟨by decide +kernel, by decide +kernel⟩
  have described : (linkedItem "/e").IsDescribed :=
    { title := ⟨_, rfl, by decide⟩
      date := ⟨_, .ofSeconds 1514764800, rfl, by decide +kernel⟩
      size := by
        intro stated known
        cases known }
  exact ⟨unrated, feed, described,
    (releases_by_address unrated feed described).1 _ rfl (by decide)⟩

/-- An enclosure of which only the length is known leaves the item out although it has a link. -/
theorem releases_leave_out_linked :
    let source : Source := { id := 1, name := ['i'], url := "https://i.example".toList }
    source.reportsUserRatings = false ∧
      HasItems (linkedFeed "length=\"1\"") [linkedItem ""] ∧
      (linkedItem "").IsDescribed ∧
      (linkedItem "").link = some "/s".toList ∧ "/s".toList ≠ [] ∧
      releases source (linkedFeed "length=\"1\"") = .ok [] := by
  intro source
  have feed : HasItems (linkedFeed "length=\"1\"") [linkedItem ""] :=
    ⟨by decide +kernel, by decide +kernel⟩
  refine ⟨by decide +kernel, feed, ?_, rfl, by decide, ?_⟩
  · exact
      { title := ⟨_, rfl, by decide⟩
        date := ⟨_, .ofSeconds 1514764800, rfl, by decide +kernel⟩
        size := by
          intro stated known
          cases known }
  · rw [releases_of_hasItems feed]
    decide +kernel

end FeedDocument

end Curator
