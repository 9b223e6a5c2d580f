import Criteria.Leaf.Basic
/-!
# Leaves of collections

Tests of how many elements a collection has, and of which. The order of the
elements decides nothing.
-/

namespace Criteria.Leaf

variable {α β : Type}

/-- There are elements. -/
def hasElements (read : α → List β) : Leaf α := test fun item => !(read item).isEmpty

/-- There are so many elements. -/
def count (read : α → List β) (n : Nat) : Leaf α := test fun item => (read item).length == n

/-- The number of elements lies between two, both included. -/
def countBetween (read : α → List β) (least greatest : Nat) : Leaf α :=
  sizeBetween (fun item => (read item).length) least greatest

/-- There are so many elements of which no two are equal. -/
def distinctCount [BEq β] (read : α → List β) (n : Nat) : Leaf α :=
  test fun item => (read item).eraseDups.length == n

/-- An element is among them. -/
def containsElement [BEq β] (read : α → List β) (element : β) : Leaf α :=
  test fun item => (read item).contains element

/-- All elements satisfy a test. -/
def allElements (read : α → List β) (check : β → Bool) : Leaf α := test fun item => (read item).all check

/-- Some element satisfies a test. -/
def anyElement (read : α → List β) (check : β → Bool) : Leaf α := test fun item => (read item).any check

/-- No element satisfies a test. -/
def noElement (read : α → List β) (check : β → Bool) : Leaf α :=
  test fun item => !(read item).any check

end Criteria.Leaf
