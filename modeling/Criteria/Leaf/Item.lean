import Criteria.Leaf.Basic
/-!
# Leaves of flags, equality and membership

Tests of what is read off an item as it is: a flag, whether something is
there, whether it equals a value or is one of several, and whether it lies
between two more things read off the same item.
-/

namespace Criteria.Leaf

variable {α β : Type}

/-- The flag is set. -/
def isTrue (read : α → Bool) : Leaf α := test read

/-- The flag is not set. -/
def isFalse (read : α → Bool) : Leaf α := test fun item => !read item

/-- Nothing is there. -/
def missing (read : α → Option β) : Leaf α := test fun item => (read item).isNone

/-- Something is there. -/
def present (read : α → Option β) : Leaf α := test fun item => (read item).isSome

/-- It equals a value. -/
def equal [BEq β] (read : α → β) (value : β) : Leaf α := test fun item => read item == value

/-- It does not equal a value. -/
def unequal [BEq β] (read : α → β) (value : β) : Leaf α := test fun item => read item != value

/-- It is among some values. -/
def member [BEq β] (read : α → β) (values : List β) : Leaf α :=
  test fun item => values.contains (read item)

/-- It is not among some values. -/
def nonmember [BEq β] (read : α → β) (values : List β) : Leaf α :=
  test fun item => !values.contains (read item)

/-- A number lies between two others of the same item, both included. -/
def numberWithin (read least greatest : α → Number) : Leaf α :=
  test fun item => (read item).ge (least item) && (read item).le (greatest item)

/-- A moment lies between two others of the same item, both included. -/
def momentWithin (read first last : α → Moment) : Leaf α :=
  test fun item => compare (read item) (first item) != .lt && compare (read item) (last item) != .gt

end Criteria.Leaf
