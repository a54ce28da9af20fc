import Curator.Content
import Curator.Disk.FileSet

/-! Telling samples from whole episodes by their playing time. -/
namespace Curator

/-- What the playing time says about a file. -/
inductive SampleStatus where
  | notSample
  | sample
  | indeterminate
deriving DecidableEq, Repr

/-- The shortest playing time in seconds of a whole episode, by the usual length of one. -/
def Content.minimumSeconds (content : Content) : Nat :=
  if content.runtimeMinutes ≤ 3 then 15
  else if content.runtimeMinutes ≤ 10 then 90
  else if content.runtimeMinutes ≤ 30 then 300
  else 600

/-- Files whose playing time says nothing. -/
def streamExtensions : List String := ["flv", "strm"]

/-- Whether a file is a sample. Specials and streams never are; without a playing time it is not
known. -/
def SampleStatus.of (content : Content) (path : Path) (isSpecial : Bool) (runtime : Option Nat) :
    SampleStatus :=
  if isSpecial || path.hasExtension streamExtensions then .notSample
  else
    match runtime with
    | none => .indeterminate
    | some nanos =>
      if nanos < content.minimumSeconds * nanosPerSecond then .sample else .notSample

end Curator
