/-!
# Comparison operators

The operators that conditions and clauses compare with. An operator is
either decided by an `Ordering` or reads text; `Operator.accepts` says
which kinds of value each applies to. `before` and `after` are other words
for `lt` and `gt`, kept apart because numbers do not take them.
-/

namespace Criteria

/-- The kind of a field's value. -/
inductive ValueKind
  | text
  | number
  | flag
  | moment
deriving DecidableEq, Repr

/-- The kind's name. -/
def ValueKind.name : ValueKind → String
  | text => "string"
  | number => "number"
  | flag => "bool"
  | moment => "datetime"

/-- A comparison operator. -/
inductive Operator
  | eq
  | ne
  | gt
  | gte
  | lt
  | lte
  | before
  | after
  | startsWith
  | endsWith
  | contains
  | regex
deriving DecidableEq, Repr

namespace Operator

/-- The same comparison in its usual word. -/
def normalize : Operator → Operator
  | before => lt
  | after => gt
  | op => op

/-- An operator that an `Ordering` decides. -/
def isOrdering (op : Operator) : Bool :=
  match op.normalize with
  | eq | ne | gt | gte | lt | lte => true
  | _ => false

/-- The kinds of value an operator applies to. -/
def accepts (op : Operator) : ValueKind → Bool
  | .text =>
      match op with
      | eq | ne | startsWith | endsWith | contains | regex => true
      | _ => false
  | .number => op.isOrdering && op != before && op != after
  | .moment => op.isOrdering
  | .flag => op == eq || op == ne

/-- What an ordering operator says of an `Ordering` of left against right;
an operator on text says no. -/
def decides (op : Operator) (o : Ordering) : Bool :=
  match op.normalize with
  | eq => o == .eq
  | ne => o != .eq
  | gt => o == .gt
  | gte => o != .lt
  | lt => o == .lt
  | lte => o != .gt
  | _ => false

/-- The operator as an expression writes it. -/
def symbol : Operator → String
  | eq => "=="
  | ne => "!="
  | gt | after => ">"
  | gte => ">="
  | lt | before => "<"
  | lte => "<="
  | startsWith => "startswith"
  | endsWith => "endswith"
  | contains => "contains"
  | regex => "~"

/-- The operator's own name. -/
def name : Operator → String
  | eq => "Eq"
  | ne => "Ne"
  | gt => "Gt"
  | gte => "Gte"
  | lt => "Lt"
  | lte => "Lte"
  | before => "Before"
  | after => "After"
  | startsWith => "StartsWith"
  | endsWith => "EndsWith"
  | contains => "Contains"
  | regex => "Regex"

/-- Every operator, in order. -/
def all : List Operator :=
  [eq, ne, gt, gte, lt, lte, before, after, startsWith, endsWith, contains, regex]

/-- The operator of a name. -/
def ofName? (s : String) : Option Operator := all.find? (·.name == s)

end Operator

end Criteria
