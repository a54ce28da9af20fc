import Curator.Fault
import Curator.Number.Binary64
import Curator.Text.Basic
import Curator.Text.Integer

/-! The figures that a source reports about a release. A blank value or a dash means that the source
says nothing, which is not the same as zero. -/
namespace Curator.Rating

/-- The top of a source's scale when it does not name one. -/
def defaultCeiling : UInt32 := 10

def isAbsent (text : List Char) : Bool :=
  let trimmed := Text.trim text
  trimmed.isEmpty || trimmed == ['-']

/-- The text of a value that says something. -/
def stated? (text : Option (List Char)) : Option (List Char) :=
  match text with
  | some text => if isAbsent text then none else some (Text.trim text)
  | none => none

def readCount (text : Option (List Char)) : Except Text.IntegerError (Option UInt32) :=
  match stated? text with
  | some text => (Text.readUnsigned 4294967295 text).map fun count => some count.toUInt32
  | none => .ok none

/-- The steps on a scale from 1 to `ceiling`; there is at least one. -/
def span (ceiling : UInt32) : Nat :=
  max ceiling.toNat 2 - 1

/-- The steps from 1 to a value, as far as they can be counted in 64 bits. -/
def steps? (value : Int) : Option Int :=
  if -9223372036854775808 ≤ value - 1 ∧ value - 1 ≤ 9223372036854775807 then some (value - 1)
  else none

/-- A place on the scale from 1 to `ceiling` as a number from 0 to 1. -/
def normalize? (ceiling : UInt32) (value : Int) : Option Binary64 :=
  (steps? value).map fun steps =>
    ((Binary64.ofInteger steps).divide (.ofInteger (span ceiling))).clamp (.finite 0) (.finite 1)

/-- A rating on the scale from 1 to `ceiling`. Whoever reads the number from which no steps can be
counted breaks down. -/
def read (text : Option (List Char)) (ceiling : UInt32) :
    Except (Failure Text.IntegerError) (Option Binary64) :=
  match stated? text with
  | some text =>
    match Text.readSigned 9223372036854775808 text with
    | .ok value =>
      match normalize? ceiling value with
      | some place => .ok (some place)
      | none => .error .crashed
    | .error error => .error (.reported error)
  | none => .ok none

/-- A flag, set by the word `yes` in any case. -/
def readFlag (text : Option (List Char)) : Bool :=
  text.any fun text => Text.equalsIgnoringCase (Text.trim text) "yes".toList

end Curator.Rating
