import Curator.Web.Address

/-! Sources of releases, as they are set up. -/
namespace Curator

structure Source where
  id : Int
  name : List Char
  url : List Char
  enabled : Bool := true
  /-- How little its releases are trusted; among otherwise equal releases less is better. -/
  weight : Int := 0
deriving DecidableEq, Repr

namespace Source

/-- The domains whose feeds tell what people think of a release. -/
def ratedDomains : List DomainLabels :=
  [["oznzb".toList, "com".toList]]

/-- Whether the releases of a source carry ratings by its users. -/
def reportsUserRatings (source : Source) : Bool :=
  match Address.hostLabels? source.url with
  | some labels => ratedDomains.any (Domain.isWithin · labels)
  | none => false

end Source

end Curator
