import Criteria.Config.Basic
import Criteria.Predicate
/-!
# Filters

A filter collects conditions and compiles them into a predicate. Most of
them stand in a chain, each with the join that ties it to all before it.
`Filter.or` takes the last condition out of the chain and opens a group of
alternatives with it; what is added while the group is open becomes an
alternative. `Filter.and` closes the group by forgetting it.

A call that can be refused answers with an `Outcome`: the filter after the
call, and the cause of a refusal.
-/

namespace Criteria

/-- How a condition is tied to those before it. -/
inductive Join
  | and
  | or
deriving DecidableEq, Repr

namespace Join

/-- The join's name. -/
def name : Join → String
  | and => "And"
  | or => "Or"

/-- The test of two joined tests. -/
def combine {α : Type} (j : Join) (s t : Clock.Readings → α → Bool) : Clock.Readings → α → Bool :=
  match j with
  | and => fun r item => s r item && t r item
  | or => fun r item => s r item || t r item

end Join

/-- A filter under construction: the chain, the open group, the join that
the next condition takes. -/
structure Filter (α : Type) where
  records : List (Condition α × Join)
  group : List (Condition α)
  next : Join
  config : Config

/-- The filter after a call, with the cause if the call was refused. -/
structure Filter.Outcome (α : Type) where
  filter : Filter α
  refusal? : Option Error

namespace Filter

variable {α β : Type}

/-- No condition yet. -/
def ofConfig (config : Config) : Filter α := ⟨[], [], .and, config⟩

/-- The number of conditions held. -/
def size (f : Filter α) : Nat := f.records.length + f.group.length

/-- No condition is held. -/
def isEmpty (f : Filter α) : Bool := f.records.isEmpty && f.group.isEmpty

/-- A group of alternatives is open. -/
def hasOpenGroup (f : Filter α) : Bool := !f.group.isEmpty

/-! ## Adding -/

/-- The filter with one more condition, in the open group or else at the
end of the chain. The condition after it joins with `and`. -/
def push (f : Filter α) (c : Condition α) : Filter α :=
  if f.group.isEmpty then { f with records := f.records ++ [(c, f.next)], next := .and }
  else { f with group := f.group ++ [c], next := .and }

/-- Why the filter does not take a condition, if it does not: it refuses
the degenerate ones where it is configured to. -/
def objection? (f : Filter α) (c : Condition α) : Option Degeneracy :=
  if f.config.rejectDegenerate then c.degeneracy? else none

/-- Adds a condition. -/
def add (f : Filter α) (c : Condition α) : Outcome α :=
  match f.objection? c with
  | some d => ⟨f, some (.degenerate d)⟩
  | none => ⟨f.push c, none⟩

/-- Adds a condition of what is read off an item. -/
def addVia (f : Filter α) (read : α → β) (c : Condition β) : Outcome α := f.add (c.via read)

/-- Adds conditions one after the other, up to the first that is refused. -/
def addAll (f : Filter α) : List (Condition α) → Outcome α
  | [] => ⟨f, none⟩
  | c :: rest =>
      let after := f.add c
      match after.refusal? with
      | some e => ⟨after.filter, some e⟩
      | none => after.filter.addAll rest

/-- Joins the next condition with `and`, and forgets the open group. -/
def and (f : Filter α) : Filter α := { f with next := .and, group := [] }

/-- Joins the next condition with `or`. The last condition of the chain, if
there is one, opens a new group. -/
def or (f : Filter α) : Filter α :=
  match f.records.getLast? with
  | some (c, _) => { f with next := .or, records := f.records.dropLast, group := [c] }
  | none => { f with next := .or }

/-! ## Compiling -/

/-- The test of a chain, joined from left to right; the first condition's
join ties it to nothing. -/
def chain? : List (Condition α × Join) → Option (Clock.Readings → α → Bool)
  | [] => none
  | (c, _) :: rest => some (rest.foldl (fun t (d, j) => j.combine t d.holds) c.holds)

/-- The test of a group of alternatives. -/
def alternatives? : List (Condition α) → Option (Clock.Readings → α → Bool)
  | [] => none
  | c :: rest => some (rest.foldl (fun t d => Join.or.combine t d.holds) c.holds)

/-- The predicate of all conditions held: the chain, with the group at its
end tied to it by the join in hand. Without conditions it is the literal
`true`. -/
def build (f : Filter α) : Predicate α :=
  match chain? f.records, alternatives? f.group with
  | none, none => ⟨.literal true⟩
  | some s, none => ⟨⟨.logical, s⟩⟩
  | none, some t => ⟨⟨.logical, t⟩⟩
  | some s, some t => ⟨⟨.logical, f.next.combine s t⟩⟩

/-- The predicate of the items that `build` refuses. -/
def buildNegated (f : Filter α) : Predicate α := f.build.negate

/-! ## Groups in parentheses -/

/-- Adds what a filter inside this one came to: its predicate as one
condition, or nothing if it was refused. -/
def close (f : Filter α) (inner : Outcome α) : Outcome α :=
  match inner.refusal? with
  | some e => ⟨f, some e⟩
  | none => f.add inner.filter.build.toCondition

/-- Adds a group: `configure` fills an empty filter of the same
configuration. -/
def addGroup (f : Filter α) (configure : Filter α → Outcome α) : Outcome α :=
  f.close (configure (ofConfig f.config))

/-! ## Inspecting -/

/-- Texts with commas between, in brackets. -/
def bracketed (parts : List String) : String := "[" ++ ", ".intercalate parts ++ "]"

/-- The filter with all it holds. -/
def inspect (f : Filter α) : String :=
  "Filter \x7b records: "
    ++ bracketed (f.records.map fun (c, j) => "(" ++ c.inspect ++ ", " ++ j.name ++ ")")
    ++ ", group: " ++ bracketed (f.group.map Condition.inspect)
    ++ ", next: " ++ f.next.name ++ ", config: " ++ f.config.inspect ++ " \x7d"

end Filter

end Criteria
