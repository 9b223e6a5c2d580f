import Criteria.Error
import Criteria.Number.Text
import Criteria.Calendar.Text
import Criteria.Text.Blank
/-!
# Guards

What a call checks of its arguments before it changes anything. A guard
succeeds with nothing to say, or fails with the cause.
-/

namespace Criteria

namespace Guard

/-- A count above zero. -/
def ensurePositive (name : String) (value : Int) : Except Error Unit :=
  if value ≤ 0 then .error (.outOfRange name value "must be greater than zero") else .ok ()

/-- The largest count that a message can name. -/
def largest : Nat := Nat.pow 2 63 - 1

/-- A page number and a page size, both from one up; the number is looked
at first. -/
def ensurePagination (page size : Nat) : Except Error Unit := do
  ensurePositive "page" (min page largest)
  ensurePositive "page_size" (min size largest)

/-- A text with more than white space in it. -/
def ensureNotBlank (name value : String) : Except Error Unit :=
  if Text.isBlank value.toList then .error (.invalidArgument name "must not be blank") else .ok ()

end Guard

/-- Bounds of a range: they order, unless one is no number, and messages
show them. -/
class Bound (α : Type) where
  compare? : α → α → Option Ordering
  text : α → String

namespace Bound

instance : Bound Number := ⟨Number.compare?, Number.text⟩

instance : Bound Date := ⟨fun a b => some (compare a b), Date.text⟩

instance : Bound Moment := ⟨fun a b => some (compare a b), Moment.text⟩

instance : Bound String := ⟨fun a b => some (compare a b), id⟩

instance : Bound Nat := ⟨fun a b => some (compare a b), toString⟩

end Bound

namespace Guard

/-- Bounds that order, with the least not above the greatest. -/
def ensureOrdered {α : Type} [Bound α] (least greatest : α) : Except Error Unit :=
  let low := Bound.text least
  let high := Bound.text greatest
  match Bound.compare? least greatest with
  | some .gt => .error (.invalidArgument "min" (low ++ " is greater than max " ++ high))
  | none => .error (.invalidArgument "min" (low ++ " and " ++ high ++ " cannot be ordered"))
  | some _ => .ok ()

end Guard

end Criteria
