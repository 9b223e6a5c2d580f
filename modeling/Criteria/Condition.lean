import Criteria.Calendar.Clock
import Criteria.Operator
import Criteria.Shape
/-!
# Conditions

A condition is a test of an item, with the shape it was built with. The
test may read the clocks, so `Condition.holds` takes what they show. A
condition over one type becomes one over another by reading the first off
the second, which keeps the shape; combining conditions forgets it.
-/

namespace Criteria

/-- A test of an item under clock readings, and its shape. -/
structure Condition (α : Type) where
  shape : Shape
  holds : Clock.Readings → α → Bool

/-- One side of a comparison. -/
inductive Operand (α : Type)
  | literal (n : Number)
  /-- A number read off the item. -/
  | read (f : α → Number)

namespace Operand

variable {α : Type}

/-- The number of a literal. -/
def literal? : Operand α → Option Number
  | literal n => some n
  | read _ => none

/-- The number an operand stands for beside an item. -/
def value : Operand α → α → Number
  | literal n, _ => n
  | read f, item => f item

/-- The operand; nothing shows of one that reads. -/
def inspect : Operand α → String
  | literal n => "Literal(" ++ n.inspect ++ ")"
  | read _ => "Value(..)"

end Operand

namespace Condition

variable {α β : Type}

/-- A test of the item alone. -/
def ofTest (test : α → Bool) : Condition α := ⟨.test, fun _ => test⟩

/-- A test that also reads the clocks. -/
def ofTimedTest (test : Clock.Readings → α → Bool) : Condition α := ⟨.test, test⟩

/-- A truth value. -/
def literal (b : Bool) : Condition α := ⟨.literal b, fun _ _ => b⟩

/-- The test of a missing value for being there, which holds of nothing. -/
def null : Condition α := ⟨.null, fun _ _ => false⟩

/-- A comparison of two numbers by an operator that numbers take. Where the
two do not order it does not hold, whatever the operator. -/
def compare (left : Operand α) (op : Operator) (right : Operand α) :
    Except Error (Condition α) :=
  if op.accepts .number then
    .ok ⟨.comparison left.literal?,
      fun _ item => ((left.value item).compare? (right.value item)).any op.decides⟩
  else
    .error (.invalidArgument "op"
      ("operator '" ++ op.symbol ++ "' is not valid for number comparisons"))

/-- The condition of what is read off an item. -/
def via (read : α → β) (c : Condition β) : Condition α :=
  ⟨c.shape, fun r item => c.holds r (read item)⟩

/-- Both hold. -/
protected def and (c d : Condition α) : Condition α :=
  ⟨.logical, fun r item => c.holds r item && d.holds r item⟩

/-- One of the two holds. -/
protected def or (c d : Condition α) : Condition α :=
  ⟨.logical, fun r item => c.holds r item || d.holds r item⟩

/-- It does not hold. -/
protected def not (c : Condition α) : Condition α :=
  ⟨.logical, fun r item => !c.holds r item⟩

/-- Why the condition is degenerate, if it is. -/
def degeneracy? (c : Condition α) : Option Degeneracy := c.shape.degeneracy?

/-- The condition by its shape; its test does not show. -/
def inspect (c : Condition α) : String :=
  "Condition \x7b shape: " ++ c.shape.inspect ++ ", .. \x7d"

end Condition

end Criteria
