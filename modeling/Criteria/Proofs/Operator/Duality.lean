import Criteria.Operator
/-!
# Operators — seen from the other side, and denied

To every operator belongs the one that says of right against left what it
says of left against right, and to every operator that an `Ordering` decides
the one that says the contrary. Neither leads out of a kind of value: what
takes an operator takes its mirror image, and its opposite. The three ways in
which two values order part the operators as well: of less, equal and greater
each ordering wants one.
-/

namespace Criteria

namespace Operator

/-- The operator that says of right against left what this one says of left
against right. -/
def mirror : Operator → Operator
  | gt => lt
  | gte => lte
  | lt => gt
  | lte => gte
  | before => after
  | after => before
  | op => op

/-- The operator that wants the orderings which this one does not want. One
that no ordering decides has none, and stays as it is. -/
def opposite : Operator → Operator
  | eq => ne
  | ne => eq
  | gt | after => lte
  | gte => lt
  | lt | before => gte
  | lte => gt
  | op => op

variable {op : Operator} {kind : ValueKind}

/-- What numbers take are the six operators that compare. -/
theorem accepts_number_iff : op.accepts .number = true ↔ op ∈ [eq, ne, gt, gte, lt, lte] := by
  cases op <;> decide

/-- All that numbers take is decided so. -/
theorem isOrdering_of_accepts_number (h : op.accepts .number = true) : op.isOrdering = true := by
  cases op <;> first | rfl | cases h

theorem accepts_mirror (op : Operator) (kind : ValueKind) :
    op.mirror.accepts kind = op.accepts kind := by
  cases op <;> cases kind <;> rfl

/-- The opposite of an operator that is taken is taken too. The converse
fails: numbers take the opposite of `before`, and not `before`. -/
theorem accepts_opposite (h : op.accepts kind = true) : op.opposite.accepts kind = true := by
  cases kind <;> cases op <;> first | rfl | cases h

/-- **The mirror image says the same of the ordering turned round.** -/
theorem decides_mirror (op : Operator) (o : Ordering) : op.mirror.decides o.swap = op.decides o := by
  cases op <;> cases o <;> rfl

/-- **The opposite says the contrary.** -/
theorem decides_opposite (op : Operator) (h : op.isOrdering = true) (o : Ordering) :
    op.opposite.decides o = !op.decides o := by
  cases op <;> first | cases o <;> rfl | cases h

/-- **An ordering is less, equal or greater, and one of these only.** -/
theorem count_decides (o : Ordering) :
    [lt.decides o, eq.decides o, gt.decides o].count true = 1 := by
  cases o <;> rfl

end Operator

end Criteria
