import Curator.Release.UserRatings

/-! Which of two releases its users like better. The full comparison also looks at the ratings, but
within a tolerance; the tier is the part of it that sorts. -/
namespace Curator.Ranking

/-- Combined ratings no farther apart than this count as equal. -/
def ratingTolerance : Binary64 :=
  .ofRational (1 / 5)

def compareBool (left right : Bool) : Ordering :=
  compare left.toNat right.toNat

/-- The ratings compared, greater being better, when they differ by more than the tolerance. -/
def compareCombined (left right : UserRatings) : Ordering :=
  if ratingTolerance.lessThan (left.combined.subtract right.combined).absolute then
    left.combined.totalCompare right.combined
  else .eq

/-- Order by user ratings, greater being better: to have any, to be usable, the verdict of the
votes, the ratings. -/
def compareRatings : Option UserRatings → Option UserRatings → Ordering
  | none, none => .eq
  | none, some _ => .lt
  | some _, none => .gt
  | some left, some right =>
    (compareBool (!left.isUnusable) (!right.isUnusable)).then <|
      (compare left.voteClass.rank right.voteClass.rank).then <|
        compareCombined left right

/-- The steps of the comparison before the ratings themselves. -/
structure Tier where
  isRated : Bool
  isUsable : Bool
  votes : VoteClass
deriving DecidableEq, Repr

/-- The tier of optional ratings. -/
def tier : Option UserRatings → Tier
  | none => { isRated := false, isUsable := false, votes := .neutral }
  | some ratings => { isRated := true, isUsable := !ratings.isUnusable, votes := ratings.voteClass }

def Tier.compare (left right : Tier) : Ordering :=
  (compareBool left.isRated right.isRated).then <|
    (compareBool left.isUsable right.isUsable).then <|
      Ord.compare left.votes.rank right.votes.rank

/-- The items sorted by the tier of their ratings, best first; equal ones keep their order. -/
def sortByTier {α : Type} (ratings : α → Option UserRatings) (items : List α) : List α :=
  items.mergeSort fun left right =>
    (tier (ratings right)).compare (tier (ratings left)) != .gt

end Curator.Ranking
