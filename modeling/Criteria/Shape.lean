import Criteria.Error
import Criteria.Number.Text
/-!
# Shapes

The form a condition was built with, which is all that degeneracy is read
from. A test that happens to hold of everything has the shape of a test and
is not degenerate; the literal `true` is.
-/

namespace Criteria

/-- The form of a condition. -/
inductive Shape
  /-- A test of which nothing is known. -/
  | test
  /-- A truth value. -/
  | literal (b : Bool)
  /-- The test of a missing value for being there. -/
  | null
  /-- A comparison, with its left operand if that is a literal. -/
  | comparison (left : Option Number)
  /-- A combination of other conditions. -/
  | logical
deriving Repr

namespace Shape

/-- Why a condition of this shape is degenerate, if it is: it is a literal,
or compares an integer zero with something. -/
def degeneracy? : Shape → Option Degeneracy
  | literal true => some .alwaysTrue
  | literal false => some .alwaysFalse
  | null => some .alwaysNull
  | comparison (some n) => if n.isIntegerZero then some .zeroLeftOperand else none
  | _ => none

/-- The shape with its parts. -/
def inspect : Shape → String
  | test => "Opaque"
  | literal b => "Literal(" ++ toString b ++ ")"
  | null => "Null"
  | comparison left =>
      "Comparison \x7b left: "
        ++ left.elim "None" (fun n => "Some(" ++ n.inspect ++ ")") ++ " \x7d"
  | logical => "Logical"

end Shape

end Criteria
