import Curator.Release.Basic

/-! How a source has been doing. Every failure raises the level and keeps the source from being
polled for a time that grows with the level; every success lowers the level by one and lets it be
polled. -/
namespace Curator

/-- How long a source is left alone at each level, in seconds. -/
def backoffTable : List Nat :=
  [0, 300, 900, 1800, 3600, 10800, 21600, 43200, 86400]

def highestLevel : Nat := 8

/-- How long a source is left alone, in seconds. Levels beyond the highest count as the highest. -/
def backoffSeconds (level : Nat) : Nat :=
  backoffTable.getD (min level highestLevel) 0

/-- The same in nanoseconds. -/
def backoffNanos (level : Nat) : Nat :=
  backoffSeconds level * nanosPerSecond

structure SourceStatus where
  sourceId : Int
  level : Nat := 0
  /-- When the present row of failures began. -/
  initialFailure : Option Timestamp := none
  mostRecentFailure : Option Timestamp := none
  /-- Until when the source is not polled. -/
  disabledUntil : Option Timestamp := none
  /-- When the source was last read without a gap. -/
  lastContinuousSync : Option Timestamp := none
  /-- The newest release when the source was last read. -/
  lastSyncMarker : Option ReleaseMarker := none
deriving DecidableEq, Repr

/-- The first level, from `level` on, that leaves the source alone for `minimum` nanoseconds, or the
highest. -/
def raiseLevel (minimum level : Nat) : Nat :=
  if level < highestLevel ∧ backoffNanos level < minimum then raiseLevel minimum (level + 1)
  else level
termination_by highestLevel - level

/-- The level above a level, as far as there is one. -/
def levelAbove (level : Nat) : Nat :=
  min (level + 1) highestLevel

namespace SourceStatus

/-- Whether the source is not to be polled at an instant. -/
def isDisabledAt (status : SourceStatus) (now : Timestamp) : Bool :=
  match status.disabledUntil with
  | some until_ => now.before until_
  | none => false

/-- The record after a failure. The source is left alone for `minimum` nanoseconds at least, as far
as the highest level goes. -/
def escalate (status : SourceStatus) (now : Timestamp) (minimum : Nat) : SourceStatus :=
  let level := raiseLevel minimum (levelAbove status.level)
  { status with
    level
    initialFailure := if status.level = 0 then some now else status.initialFailure
    mostRecentFailure := some now
    disabledUntil := some (now.add (backoffNanos level)) }

/-- The record after a failure, unless its level cannot be counted up in 32 bits. -/
def escalate? (status : SourceStatus) (now : Timestamp) (minimum : Nat) : Option SourceStatus :=
  if status.level < 4294967295 then some (status.escalate now minimum) else none

/-- The record after a success, when the success changes it. -/
def recover? (status : SourceStatus) : Option SourceStatus :=
  if status.level = 0 then none
  else some { status with level := status.level - 1, disabledUntil := none }

/-- The record after the source was read up to a release. -/
def checkpoint (status : SourceStatus) (now : Timestamp) (marker : ReleaseMarker)
    (fullyCaught : Bool) : SourceStatus :=
  { status with
    lastContinuousSync := if fullyCaught then some now else status.lastContinuousSync
    lastSyncMarker := some marker }

end SourceStatus

end Curator
