import Criteria.Number.Basic
import Criteria.Decimal.Layout
/-!
# Numbers as text

Two formats. The plain one writes a double positionally at any size and
drops a needless point, so messages read `5` and `0.1`. The inspecting one
names the kind, keeps the point of a whole double, and turns to exponent
form outside `10 ^ -4 … 10 ^ 15`.
-/

namespace Criteria

namespace Binary64

/-- Positional at any size, no needless point. -/
def plainLayout : Decimal.Layout := ⟨none, false⟩

/-- Positional between `10 ^ -4` and `10 ^ 15`, with a point always. -/
def inspectLayout : Decimal.Layout := ⟨some (-4, 15), true⟩

/-- The reals that round to a nonzero finite word. -/
def interval (x : Binary64) : Decimal.Interval :=
  .ofBinary x.significand x.exponent (x.fractionBits == 0 && 1 < x.exponentBits)

/-- A double by a layout: the shortest digits that read back, with a minus
for the negative ones, zero included. -/
def write (x : Binary64) (layout : Decimal.Layout) : String :=
  if x.isNaN then "NaN"
  else (if x.isNegative then "-" else "") ++
    (if x.isInfinite then "inf"
    else if x.isZero then layout.writeZero
    else layout.write x.interval.shortest)

end Binary64

namespace Number

/-- The number as messages show it. -/
def text : Number → String
  | signed n => toString n.toInt
  | unsigned n => toString n.toNat
  | float x => x.write Binary64.plainLayout

/-- The number with its kind. -/
def inspect : Number → String
  | signed n => "I64(" ++ toString n.toInt ++ ")"
  | unsigned n => "U64(" ++ toString n.toNat ++ ")"
  | float x => "F64(" ++ x.write Binary64.inspectLayout ++ ")"

end Number

end Criteria
