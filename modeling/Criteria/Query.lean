import Criteria.Predicate
/-!
# Queries

The questions that a predicate answers about a list of items. Only a page
can be refused.
-/

namespace Criteria

/-- A question about a list of items. -/
inductive Query
  | filter
  | gather
  | retain
  | count
  | any
  | all
  | find
  | position
  | page (number size : Nat)
deriving DecidableEq, Repr

/-- What a query comes to. -/
inductive Answer (α : Type)
  | items (found : List α)
  | count (n : Nat)
  | truth (b : Bool)
  | item? (found : Option α)
  | index? (index : Option Nat)

namespace Query

variable {α : Type}

/-- The predicate's answer. -/
def answer (p : Predicate α) (r : Clock.Readings) (items : List α) :
    Query → Except Error (Answer α)
  | filter => .ok (.items (p.filter r items))
  | gather => .ok (.items (p.gather r items).toList)
  | retain => .ok (.items (p.retain r items.toArray).toList)
  | count => .ok (.count (p.count r items))
  | any => .ok (.truth (p.any r items))
  | all => .ok (.truth (p.all r items))
  | find => .ok (.item? (p.find? r items))
  | position => .ok (.index? (p.position? r items))
  | page number size => (p.page r items number size).map .items

end Query

end Criteria
