/-!
# The shortest decimal that reads back

A number that is held rounded stands for an interval of reals: those that
round to it. Of the decimals `digits · 10 ^ power` in that interval,
`shortest` picks one on the coarsest grid that has any, the one nearest to
the number itself, and the upper one where two are equally near. A decimal
on the coarsest grid has the fewest digits.
-/

namespace Criteria.Decimal

/-- A decimal `digits · 10 ^ power`. -/
structure Scaled where
  digits : Nat
  power : Int
deriving DecidableEq, Repr

/-- The reals that round to a number, in units of `2 ^ unit`: the number
itself, the two ends, and whether the ends belong to it. -/
structure Interval where
  low : Nat
  centre : Nat
  high : Nat
  closed : Bool
  unit : Int
deriving DecidableEq, Repr

namespace Interval

/-- The interval of `m · 2 ^ e` among its neighbours `m ± 1`, in quarters
of their distance. At the bottom of a binade the neighbour below is half
as far away. An even significand owns both ends. -/
def ofBinary (m : Nat) (e : Int) (binadeStart : Bool) : Interval where
  low := if binadeStart then 4 * m - 1 else 4 * m - 2
  centre := 4 * m
  high := 4 * m + 2
  closed := m % 2 == 0
  unit := e - 2

/-- Whether `d` grid steps of `step` lie in the interval scaled by
`scale`. -/
def holds (i : Interval) (scale step d : Nat) : Bool :=
  if i.closed then i.low * scale ≤ d * step && d * step ≤ i.high * scale
  else i.low * scale < d * step && d * step < i.high * scale

/-- The point of the grid `10 ^ power` that stands for the interval, if
the grid has a positive point in it: the nearer one of the two neighbours
of the centre, and the upper one of two equally near. -/
def onGrid (i : Interval) (power : Int) : Option Nat :=
  let scale := Nat.pow 2 i.unit.toNat * Nat.pow 10 (-power).toNat
  let step := Nat.pow 10 power.toNat * Nat.pow 2 (-i.unit).toNat
  let below := i.centre * scale / step
  let above := below + 1
  let holdsBelow := 0 < below && i.holds scale step below
  match holdsBelow, i.holds scale step above with
  | true, true =>
      if above * step - i.centre * scale ≤ i.centre * scale - below * step then some above
      else some below
  | true, false => some below
  | false, true => some above
  | false, false => none

/-- Searches the grids downward from `10 ^ power`. -/
def search (i : Interval) : Nat → Int → Scaled
  | 0, power => ⟨0, power⟩
  | fuel + 1, power =>
      match i.onGrid power with
      | some d => ⟨d, power⟩
      | none => search i fuel (power - 1)

/-- The shortest decimal in the interval of a positive double. Doubles lie
below `10 ^ 309`, and the grid `10 ^ -324` is finer than their smallest
distance, so the search ends at a hit. -/
def shortest (i : Interval) : Scaled := i.search 640 309

end Interval

end Criteria.Decimal
