/-! Qualities of releases and files, and the order that a profile puts them in. What a profile does
not name ranks below all that it names. -/
namespace Curator

/-- Source and resolution of a release or a file. -/
inductive Quality where
  | unknown
  | sdtv
  | dvd
  | webDl480p
  | hdtv720p
  | hdtv1080p
  | rawHd
  | webDl720p
  | bluray720p
  | webDl1080p
  | bluray1080p
deriving DecidableEq, Repr

namespace Quality

/-- Every quality, the usual order of preference, least preferred first. -/
def all : List Quality :=
  [unknown, sdtv, dvd, webDl480p, hdtv720p, hdtv1080p, rawHd, webDl720p, bluray720p, webDl1080p,
    bluray1080p]

def name : Quality → String
  | unknown => "Unknown"
  | sdtv => "SDTV"
  | dvd => "DVD"
  | webDl480p => "WEBDL-480p"
  | hdtv720p => "HDTV-720p"
  | hdtv1080p => "HDTV-1080p"
  | rawHd => "Raw-HD"
  | webDl720p => "WEBDL-720p"
  | bluray720p => "Bluray-720p"
  | webDl1080p => "WEBDL-1080p"
  | bluray1080p => "Bluray-1080p"

end Quality

/-- A quality with the revision of the release; a second one mends the first. -/
structure QualityModel where
  quality : Quality := .unknown
  revision : UInt32 := 1
deriving DecidableEq, Repr

namespace QualityModel

/-- The second revision of a quality. -/
def proper (quality : Quality) : QualityModel :=
  { quality, revision := 2 }

def name (model : QualityModel) : String :=
  if 1 < model.revision then model.quality.name ++ " Proper" else model.quality.name

end QualityModel

/-- The qualities wanted for a content item, least preferred first. -/
structure QualityProfile where
  items : List Quality := Quality.all
deriving DecidableEq, Repr

namespace QualityProfile

def rank? (profile : QualityProfile) (quality : Quality) : Option Nat :=
  profile.items.findIdx? (· == quality)

/-- A number that orders qualities as their places do, 0 for those outside the profile. -/
def rankKey (profile : QualityProfile) (quality : Quality) : Nat :=
  match profile.rank? quality with
  | some place => place + 1
  | none => 0

/-- Order by place in the profile, then by revision; greater is preferred. -/
def compare (profile : QualityProfile) (left right : QualityModel) : Ordering :=
  (Ord.compare (profile.rankKey left.quality) (profile.rankKey right.quality)).then
    (Ord.compare left.revision.toNat right.revision.toNat)

end QualityProfile

end Curator
