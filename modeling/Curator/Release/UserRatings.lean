import Curator.Feed.Rating

/-! What the users of a source report about a release. -/
namespace Curator

/-- Votes, ratings and reports; what the source leaves out is absent. -/
structure UserRatings where
  upVotes : Option UInt32 := none
  downVotes : Option UInt32 := none
  /-- Quality of the picture, from 0 to 1, as that of the sound. -/
  videoRating : Option Binary64 := none
  audioRating : Option Binary64 := none
  spamReports : Option UInt32 := none
  passwordedReports : Option UInt32 := none
  isSpam : Bool := false
  isPassworded : Bool := false
  /-- The top of the source's own scale. -/
  ceiling : UInt32 := Rating.defaultCeiling
deriving DecidableEq, Repr

inductive VoteClass where
  | bad
  | neutral
  | good
deriving DecidableEq, Repr

/-- The place of a verdict in the order from bad to good. -/
def VoteClass.rank : VoteClass → Nat
  | bad => 0
  | neutral => 1
  | good => 2

namespace UserRatings

/-- Fewer votes than this say nothing. -/
def leastVotes : Nat := 5

/-- The share of the votes that settles a verdict. -/
def supermajority : Binary64 :=
  .ofRational (2 / 3)

/-- Whether the release is confirmed as spam or as locked by a password. -/
def isUnusable (ratings : UserRatings) : Bool :=
  ratings.isSpam || ratings.isPassworded

def share (part whole : Nat) : Binary64 :=
  (Binary64.ofInteger part).divide (.ofInteger whole)

def classify (up down : Nat) : VoteClass :=
  if up + down < leastVotes then .neutral
  else if supermajority.atMost (share up (up + down)) then .good
  else if supermajority.atMost (share down (up + down)) then .bad
  else .neutral

/-- The verdict of the votes, neutral unless both counts are reported. -/
def voteClass (ratings : UserRatings) : VoteClass :=
  match ratings.upVotes, ratings.downVotes with
  | some up, some down => classify up.toNat down.toNat
  | _, _ => .neutral

/-- The mean of the ratings that are reported, or the middle of the scale. -/
def combined (ratings : UserRatings) : Binary64 :=
  match ratings.videoRating, ratings.audioRating with
  | some video, some audio => (video.add audio).divide (.finite 2)
  | some rating, none | none, some rating => rating
  | none, none => .finite (1 / 2)

def renderVotes (ratings : UserRatings) : String :=
  match ratings.upVotes, ratings.downVotes with
  | some up, some down => s!"+{up.toNat}/-{down.toNat}"
  | some up, none => s!"+{up.toNat}"
  | none, some down => s!"-{down.toNat}"
  | none, none => "-"

end UserRatings

end Curator
