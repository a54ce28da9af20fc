import Curator.Fault
import Curator.Feed.ErrorDocument
import Curator.Feed.PublicationDate
import Curator.Feed.ReportedSize
import Curator.Feed.Rss
import Curator.Release.Basic
import Curator.Source
import Curator.Text.Utf8

/-! Releases from the feed of a source. Each item stands for itself: what is wrong with one of them
never touches another, unless the reading breaks down. -/
namespace Curator

inductive Omission where
  | noTitle
  | noAddress
  | noDate
  | unreadableDate
  | unreadableSize
  | unreadableRating (error : Text.IntegerError)
  /-- The users of the source found the release to be spam or to need a password. -/
  | unusable
deriving DecidableEq, Repr

namespace FeedItem

/-- The namespaces of attributes of items, in the order in which they are searched. -/
def attributeSpaces : List String := ["newznab", "torznab"]

def statedValue? (name : String) (extension : Extension) : Option FeedText :=
  (extension.attributes.reverse.find? (·.1 == name.toList)).map Prod.snd

/-- The attributes of an item in the order in which they are searched. -/
def attributes (item : FeedItem) : List Extension :=
  attributeSpaces.flatMap fun space =>
    item.extensions.filter fun extension =>
      extension.space == space.toList && extension.name == "attr".toList

/-- The value of the first attribute with a name in any case, if it has one. -/
def attribute? (item : FeedItem) (name : String) : Option FeedText :=
  (item.attributes.find? fun extension =>
    (statedValue? "name" extension).any (Text.equalsIgnoringCase · name.toList)).bind
      (statedValue? "value")

def releaseTitle (item : FeedItem) : Except Omission FeedText :=
  match item.title.map Text.trim with
  | none | some [] => .error .noTitle
  | some title => .ok title

/-- Where the release is found: what is enclosed goes before the link. -/
def downloadUrl (item : FeedItem) : Except Omission FeedText :=
  match item.enclosureUrl <|> item.link with
  | none | some [] => .error .noAddress
  | some url => .ok url

/-- The size of the release: as stated, or as the description mentions it, or 0. -/
def releaseSize (item : FeedItem) : Except Omission UInt64 :=
  match item.attribute? "size" with
  | some stated =>
    match Text.readUnsigned ReportedSize.greatest (Text.trim stated) with
    | .ok size => .ok size.toUInt64
    | .error _ => .error .unreadableSize
  | none => .ok ((item.description.map ReportedSize.read).getD 0)

/-- When the release was published. The date of its first appearance goes before that of the
item. -/
def publishDate (item : FeedItem) : Except Omission Timestamp :=
  match item.attribute? "usenetdate" <|> item.publicationDate with
  | none => .error .noDate
  | some written =>
    match PublicationDate.read? written with
    | some date => .ok date
    | none => .error .unreadableDate

def infoUrl (item : FeedItem) : Option FeedText :=
  match item.comments.map (Text.without "#comments".toList) with
  | none | some [] => none
  | some url => some url

/-- The number of the show in an external catalogue, when it is a number of 32 bits. -/
def tvId (item : FeedItem) : Option Int :=
  (item.attribute? "tvdbid" <|> item.attribute? "rageid").bind fun written =>
    (Text.readSigned 2147483648 (Text.trim written)).toOption

/-- What the users of a source report about the release. -/
def userRatings (item : FeedItem) : Except (Failure Text.IntegerError) UserRatings := do
  let count (name : String) := (Rating.readCount (item.attribute? name)).mapError .reported
  let rating (name : String) := Rating.read (item.attribute? name) Rating.defaultCeiling
  return {
    upVotes := ← count "oz_up_votes"
    downVotes := ← count "oz_down_votes"
    videoRating := ← rating "oz_video_quality_rating"
    audioRating := ← rating "oz_audio_quality_rating"
    spamReports := ← count "oz_num_spam_reports"
    passwordedReports := ← count "oz_num_passworded_reports"
    isSpam := Rating.readFlag (item.attribute? "oz_spam_confirmed")
    isPassworded := Rating.readFlag (item.attribute? "oz_passworded_confirmed") }

/-- The ratings of the release, which only some sources report. -/
def ratings (item : FeedItem) (isRated : Bool) :
    Except (Failure Omission) (Option UserRatings) :=
  if isRated then
    match item.userRatings with
    | .error (.reported error) => .error (.reported (.unreadableRating error))
    | .error .crashed => .error .crashed
    | .ok ratings =>
      if ratings.isUnusable then .error (.reported .unusable) else .ok (some ratings)
  else .ok none

def release (source : Source) (item : FeedItem) : Except (Failure Omission) Release := do
  let title ← item.releaseTitle.mapError .reported
  let ratings ← item.ratings source.reportsUserRatings
  let downloadUrl ← item.downloadUrl.mapError .reported
  let size ← item.releaseSize.mapError .reported
  let publishDate ← item.publishDate.mapError .reported
  return {
    guid := item.guid, title, size, publishDate
    sourceId := source.id, source := source.name
    downloadUrl, infoUrl := item.infoUrl, tvId := item.tvId
    weight := source.weight, ratings }

end FeedItem

namespace FeedDocument

/-- Items that stand for no release are left out, and one that breaks the reading ends it. -/
def releasesOfItems (source : Source) : List FeedItem → Except (Failure Fault) (List Release)
  | [] => .ok []
  | item :: items =>
    match item.release source with
    | .ok release => (releasesOfItems source items).map (release :: ·)
    | .error (.reported _) => releasesOfItems source items
    | .error .crashed => .error .crashed

/-- The releases in a document from a source. A source that wants fewer requests offers none; any
other refusal is a fault, and so is a document that is no feed. -/
def releases (source : Source) (bytes : List UInt8) : Except (Failure Fault) (List Release) :=
  match ErrorDocument.read? (Text.decodeUtf8Lossy bytes) with
  | some error =>
    if error.isRequestLimit then .ok []
    else .error (.reported (.feed s!"{String.ofList source.name}: {error.message}"))
  | none =>
    match Rss.items? (.ofBytes bytes) with
    | some items => releasesOfItems source items
    | none => .error (.reported (.feed s!"parse {String.ofList source.name}"))

end FeedDocument

end Curator
