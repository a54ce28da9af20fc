import Curator.Feed.ReportedSize

/-! Sizes as shown to people. -/
namespace Curator.DisplayedSize

/-- A size in a unit. Sizes beyond 53 bits are rounded to a double first; dividing that by a power
of two is exact. -/
def inUnit (places : Nat) (unit : ReportedSize.SizeUnit) (size : UInt64) : String :=
  Decimal.renderFixed places (Binary64.nearest size.toNat / unit.bytes)

/-- A size in gibibytes from one on, else in mebibytes; 0 is not known. -/
def render (size : UInt64) : String :=
  if size = 0 then "?"
  else if ReportedSize.SizeUnit.gibibyte.bytes ≤ size.toNat then inUnit 2 .gibibyte size ++ " GiB"
  else inUnit 1 .mebibyte size ++ " MiB"

end Curator.DisplayedSize
