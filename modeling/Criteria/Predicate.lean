import Criteria.Condition
import Criteria.Guard
/-!
# Predicates

What a filter compiles to: one condition, used as a whole. Beside testing
one item a predicate selects from many, and all the ways to ask describe
the same selection: `Predicate.filter` lists it, `count`, `any`, `find?`
and `position?` look at it, `page` cuts it.
-/

namespace Criteria

/-- A composed test of items. -/
structure Predicate (α : Type) where
  toCondition : Condition α

namespace Predicate

variable {α : Type}

/-- The item passes. -/
def test (p : Predicate α) (r : Clock.Readings) (item : α) : Bool := p.toCondition.holds r item

/-- The predicate of the items that do not pass. -/
def negate (p : Predicate α) : Predicate α := ⟨p.toCondition.not⟩

/-- The form of the predicate. -/
def shape (p : Predicate α) : Shape := p.toCondition.shape

/-- The predicate by its shape. -/
def inspect (p : Predicate α) : String := "Predicate(" ++ p.toCondition.inspect ++ ")"

/-! ## Selecting -/

/-- The items that pass, in order. -/
def filter (p : Predicate α) (r : Clock.Readings) (items : List α) : List α :=
  items.filter (p.test r)

/-- The items that pass, gathered one by one into an array of their own. -/
def gather (p : Predicate α) (r : Clock.Readings) (items : List α) : Array α :=
  items.foldl (fun found item => if p.test r item then found.push item else found) #[]

/-- An array with the items removed that do not pass. -/
def retain (p : Predicate α) (r : Clock.Readings) (items : Array α) : Array α :=
  items.filter (p.test r)

/-- How many items pass. -/
def count (p : Predicate α) (r : Clock.Readings) (items : List α) : Nat :=
  items.countP (p.test r)

/-- Some item passes. -/
def any (p : Predicate α) (r : Clock.Readings) (items : List α) : Bool := items.any (p.test r)

/-- All items pass. -/
def all (p : Predicate α) (r : Clock.Readings) (items : List α) : Bool := items.all (p.test r)

/-- The first item that passes. -/
def find? (p : Predicate α) (r : Clock.Readings) (items : List α) : Option α :=
  items.find? (p.test r)

/-- The index of the first item that passes. -/
def position? (p : Predicate α) (r : Clock.Readings) (items : List α) : Option Nat :=
  items.findIdx? (p.test r)

/-- The most items that a page can leave out before it. -/
def skipLimit : Nat := Nat.pow 2 64 - 1

/-- One page of the items that pass, counted from one. A page past the end
has no items. -/
def page (p : Predicate α) (r : Clock.Readings) (items : List α) (number size : Nat) :
    Except Error (List α) :=
  (Guard.ensurePagination number size).map fun _ =>
    ((p.filter r items).drop (min ((number - 1) * size) skipLimit)).take size

end Predicate

end Criteria
