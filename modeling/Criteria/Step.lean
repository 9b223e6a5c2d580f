import Criteria.Leaf.Basic
import Criteria.Query
/-!
# Programs of steps

A program is a row of steps that build one filter: adding conditions and
leaves, turning the join, filling a group by a program of its own. Beside
the filter a program can keep predicates and filters under names, which it
shares with its groups, and ask what it has built about some items.

`Step.run` takes a step from one state to the next and reports both how it
went. A refused step ends a group's program, unless the group goes on
regardless or only attempted the step; the outermost program always goes on.
-/

namespace Criteria

/-- One step of a program. -/
inductive Step (α : Type)
  /-- Changes nothing. -/
  | look
  /-- A call that failed before it reached the filter. -/
  | refuse (cause : Error)
  | add (c : Condition α)
  | addLeaf (leaf : Leaf α)
  | and
  | or
  /-- Fills a group by steps of its own, up to the first that is refused;
  or, if it is to go on, by all that are not. -/
  | group (goesOn : Bool) (steps : List (Step α))
  /-- Takes a step, and is not refused where that step is. -/
  | attempt (step : Step α)
  /-- Asks the predicate so far, or its negation, about some items. -/
  | ask (query : Query) (negated : Bool) (r : Clock.Readings) (items : List α)
  /-- Keeps the predicate so far, or its negation. -/
  | keep (name : String) (negated : Bool)
  /-- Keeps the negation of a kept predicate in its place. -/
  | negateKept (name : String)
  /-- Adds a kept predicate as a condition. -/
  | addKept (name : String)
  /-- Keeps the filter as it is. -/
  | save (name : String)
  /-- Goes on from a saved filter. -/
  | load (name : String)

/-- Adds a condition of what is read off an item. -/
def Step.addVia {α β : Type} (read : α → β) (c : Condition β) : Step α := .add (c.via read)

/-- What a program works on: its filter, and what is kept under names. -/
structure Session (α : Type) where
  filter : Filter α
  kept : List (String × Predicate α)
  saved : List (String × Filter α)

namespace Session

variable {α : Type}

/-- An empty filter, and nothing kept. -/
def ofConfig (config : Config) : Session α := ⟨.ofConfig config, [], []⟩

/-- The predicate of the filter, or its negation. -/
def predicate (s : Session α) (negated : Bool) : Predicate α :=
  if negated then s.filter.buildNegated else s.filter.build

/-- The kept predicate of a name. -/
def kept? (s : Session α) (name : String) : Option (Predicate α) := s.kept.lookup name

/-- The session with a predicate kept under a name. -/
def keep (s : Session α) (name : String) (p : Predicate α) : Session α :=
  { s with kept := (name, p) :: s.kept }

/-- The session inside a group: an empty filter of the same configuration,
and all that is kept. -/
def inside (s : Session α) : Session α := { s with filter := .ofConfig s.filter.config }

end Session

/-- How a step went: the session after it, the cause if it was refused, the
answer if it asked, and the reports of the steps inside. -/
inductive Report (α : Type)
  | mk (session : Session α) (refusal? : Option Error) (answer? : Option (Answer α))
      (inner : List (Report α))

namespace Report

variable {α : Type}

/-- The session after the step. -/
def session : Report α → Session α
  | mk s _ _ _ => s

/-- Why the step was refused, if it was. -/
def refusal? : Report α → Option Error
  | mk _ e _ _ => e

/-- What the step was answered, if it asked. -/
def answer? : Report α → Option (Answer α)
  | mk _ _ a _ => a

/-- How the steps inside went. -/
def inner : Report α → List (Report α)
  | mk _ _ _ rs => rs

/-- The report of a step that led to a session. -/
def done (s : Session α) : Report α := mk s none none []

/-- The report of a step that led to an outcome of the filter. -/
def ofOutcome (s : Session α) (o : Filter.Outcome α) : Report α :=
  mk { s with filter := o.filter } o.refusal? none []

end Report

/-- How a program went: its reports, the session at its end, and the cause
if a refused step ended it. -/
structure Trace (α : Type) where
  reports : List (Report α)
  session : Session α
  refusal? : Option Error

namespace Step

variable {α : Type}

mutual

/-- Takes one step. -/
def run (s : Session α) : Step α → Report α
  | look => .done s
  | refuse cause => .mk s (some cause) none []
  | add c => .ofOutcome s (s.filter.add c)
  | addLeaf leaf => .ofOutcome s (s.filter.addLeaf leaf)
  | and => .done { s with filter := s.filter.and }
  | or => .done { s with filter := s.filter.or }
  | group goesOn steps =>
      let inside := runAll goesOn s.inside steps
      let after := s.filter.close ⟨inside.session.filter, inside.refusal?⟩
      .mk { inside.session with filter := after.filter } after.refusal? none inside.reports
  | attempt step =>
      let report := step.run s
      .mk report.session none none [report]
  | ask query negated r items =>
      match query.answer (s.predicate negated) r items with
      | .ok a => .mk s none (some a) []
      | .error e => .mk s (some e) none []
  | keep name negated => .done (s.keep name (s.predicate negated))
  | negateKept name =>
      match s.kept? name with
      | some p => .done (s.keep name p.negate)
      | none => .done s
  | addKept name =>
      match s.kept? name with
      | some p => .ofOutcome s (s.filter.add p.toCondition)
      | none => .done s
  | save name => .done { s with saved := (name, s.filter) :: s.saved }
  | load name =>
      match s.saved.lookup name with
      | some f => .done { s with filter := f }
      | none => .done s

/-- Takes steps in a row: all of them if it is to go on, else up to the
first that is refused. -/
def runAll (goesOn : Bool) (s : Session α) : List (Step α) → Trace α
  | [] => ⟨[], s, none⟩
  | step :: rest =>
      let report := step.run s
      match goesOn, report.refusal? with
      | false, some e => ⟨[report], report.session, some e⟩
      | _, _ =>
          let after := runAll goesOn report.session rest
          ⟨report :: after.reports, after.session, after.refusal?⟩

end

/-- Runs a program on an empty filter. -/
def program (config : Config) (steps : List (Step α)) : Trace α :=
  runAll true (.ofConfig config) steps

end Step

end Criteria
