import Curator.Path
import Curator.Quality

/-! Items of the library and the episodes that a release or a file holds. -/
namespace Curator

/-- An item of the library. -/
structure Content where
  id : Int
  runtimeMinutes : Nat
  profile : QualityProfile := {}
  /-- Where the item's files are kept. -/
  path : Option Path := none
deriving DecidableEq, Repr

/-- An episode of a season; season 0 holds the specials. -/
structure Episode where
  season : Nat
  number : Nat
deriving DecidableEq, Repr

/-- Whether the episode stands outside the regular seasons. -/
def Episode.isSpecial (episode : Episode) : Bool :=
  episode.season == 0

end Curator
