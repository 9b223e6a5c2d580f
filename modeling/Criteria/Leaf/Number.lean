import Criteria.Condition
import Criteria.Guard
/-!
# Tests of numbers

Each compares a number with bounds given in advance. A number that is none
passes no test.
-/

namespace Criteria

/-- A test of a number. -/
inductive NumberTest
  | zero
  | nonzero
  | positive
  | negative
  | above (bound : Number)
  | atLeast (bound : Number)
  | below (bound : Number)
  | atMost (bound : Number)
  /-- Between two bounds, both included. -/
  | between (least greatest : Number)
deriving Repr

namespace NumberTest

/-- A comparison of a number with a bound. -/
def against (op : Operator) (bound : Number) : Except Error (Condition Number) :=
  Condition.compare (.read id) op (.literal bound)

/-- The test as a condition of numbers. The bounds of a range must order. -/
def condition : NumberTest → Except Error (Condition Number)
  | zero => against .eq (.signed 0)
  | nonzero => against .ne (.signed 0)
  | positive => against .gt (.signed 0)
  | negative => against .lt (.signed 0)
  | above bound => against .gt bound
  | atLeast bound => against .gte bound
  | below bound => against .lt bound
  | atMost bound => against .lte bound
  | between least greatest => do
      Guard.ensureOrdered least greatest
      let low ← against .gte least
      let high ← against .lte greatest
      return low.and high

end NumberTest

end Criteria
