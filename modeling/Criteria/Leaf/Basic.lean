import Criteria.Clause
import Criteria.Filter
import Criteria.Leaf.Moment
import Criteria.Leaf.Number
import Criteria.Leaf.Text
/-!
# Leaves

A leaf is a ready-made test of something read off an item: a text, a
number, a moment, a field by its name. It stands for one condition, but for
the search of several texts, which stands for one a text. What is wrong with
a leaf's arguments shows before any condition is added.
-/

namespace Criteria

/-- A ready-made test of items. -/
inductive Leaf (α : Type)
  /-- A test with no arguments to be wrong. -/
  | test (holds : α → Bool)
  | text (read : α → String) (check : TextTest)
  /-- Each of the texts has one of the terms, which white space parts. -/
  | anyTerm (terms : String) (reads : List (α → String))
  | number (read : α → Number) (check : NumberTest)
  | moment (read : α → Moment) (check : MomentTest)
  /-- A size lies between two, both included. -/
  | sizeBetween (size : α → Nat) (least greatest : Nat)
  /-- A checked clause. -/
  | field [Fields α] (name : String) (op : Operator) (comparand : Comparand)
  /-- A checked clause with a pattern. -/
  | fieldPattern [Fields α] (name pattern : String)

/-- The clause as a condition of items. -/
def Clause.condition {α : Type} [Fields α] (c : Clause) : Condition α :=
  .ofTest fun item => c.isMatch (Fields.value item c.field)

namespace Leaf

variable {α : Type}

/-- One of the terms occurs in the text. -/
def hasTerm (ignoreCase : Bool) (terms : List (List Char)) (s : String) : Bool :=
  terms.any fun term => Text.occursUnder ignoreCase term s.toList

/-- The condition of a clause on the field of a name. -/
def fieldCondition [Fields α] (name : String) (op : Operator) (comparand : Comparand) :
    Except Error (Condition α) :=
  (Clause.checked (Fields.names α) name op comparand).map Clause.condition

/-- The conditions that a leaf stands for under a configuration, or what is
wrong with its arguments. -/
def conditions (config : Config) : Leaf α → Except Error (List (Condition α))
  | test holds => .ok [.ofTest holds]
  | text read check => (check.condition config).map fun c => [c.via read]
  | anyTerm terms reads => do
      Guard.ensureNotBlank "terms" terms
      if reads.isEmpty then
        throw (.invalidArgument "accessors" "at least one is required")
      let found := hasTerm config.ignoreCase (Text.words terms.toList)
      return reads.map (Condition.ofTest found).via
  | number read check => check.condition.map fun c => [c.via read]
  | moment read check => (check.condition config.clock).map fun c => [c.via read]
  | sizeBetween size least greatest =>
      (Guard.ensureOrdered least greatest).map fun _ =>
        [.ofTest fun item => least ≤ size item && size item ≤ greatest]
  | field name op comparand => (fieldCondition name op comparand).map fun c => [c]
  | fieldPattern name pattern => do
      Guard.ensureNotBlank "pattern" pattern
      let c ← fieldCondition name .regex (.text pattern)
      return [c]

end Leaf

namespace Filter

variable {α : Type}

/-- Adds what a leaf stands for. -/
def addLeaf (f : Filter α) (leaf : Leaf α) : Outcome α :=
  match leaf.conditions f.config with
  | .error e => ⟨f, some e⟩
  | .ok cs => f.addAll cs

end Filter

end Criteria
