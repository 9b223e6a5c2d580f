import Criteria.Step
import Criteria.Proofs.Filter.Reachable
/-!
# Programs — runs

What a step can do to the filter is said once, in `filter_run_cases`: a
step that is refused does nothing to it, and any other pushes conditions,
turns the join or gives conditions up.

A run takes its steps one after the other, so a run of two programs in a
row is a run of the first and then of the second; this needs that refused
steps do not end it. What one step keeps of a session a whole run keeps,
inside groups as well: the filter, and every filter that was saved, stays
reachable. Conversely a program leads to any reachable filter, so a fact
about all reachable filters is a fact about the ends of all programs and
of their beginnings.
-/

namespace Criteria

namespace Report

variable {α : Type} {s : Session α}

@[simp] theorem session_mk (e : Option Error) (a : Option (Answer α)) (inner : List (Report α)) :
    (mk s e a inner).session = s := rfl

/-- Nothing was refused: not the step, and none of the steps inside it. -/
inductive Smooth : Report α → Prop
  | mk {s : Session α} {a : Option (Answer α)} {inner : List (Report α)} :
      (∀ report ∈ inner, Smooth report) → Smooth (.mk s none a inner)

/-- A smooth report is one of a step that was not refused. -/
theorem Smooth.refusal?_eq_none {report : Report α} (h : report.Smooth) :
    report.refusal? = none := by
  cases h; rfl

/-- Something holds of the session after the step and of those after the
steps inside it. -/
inductive Throughout (P : Session α → Prop) : Report α → Prop
  | mk {report : Report α} :
      P report.session → (∀ inside ∈ report.inner, Throughout P inside) → Throughout P report

/-- What follows from it holds throughout too. -/
theorem Throughout.mono {P Q : Session α → Prop} (hPQ : ∀ s, P s → Q s) {report : Report α}
    (h : report.Throughout P) : report.Throughout Q := by
  induction h with
  | mk hP _ ih => exact .mk (hPQ _ hP) ih

end Report

namespace Step

variable {α : Type} {goesOn : Bool} {s : Session α} {step : Step α} {rest : List (Step α)}

/-! ## Groups -/

/-- A group whose steps were not refused pushes the condition they come to,
unless the filter objects to it. -/
theorem run_group {steps : List (Step α)} (hnone : (runAll goesOn s.inside steps).refusal? = none)
    (hno : s.filter.objection?
      (runAll goesOn s.inside steps).session.filter.build.toCondition = none) :
    (group goesOn steps).run s =
      .mk { (runAll goesOn s.inside steps).session with
          filter := s.filter.push
            (runAll goesOn s.inside steps).session.filter.build.toCondition }
        none none (runAll goesOn s.inside steps).reports := by
  simp only [run, Filter.close, hnone, Filter.add, hno]

/-- **A group is refused with the filter as it was**, or its steps were not
refused and the filter does not object to what they come to. -/
theorem run_group_cases (s : Session α) (goesOn : Bool) (steps : List (Step α)) :
    (∃ e, ((group goesOn steps).run s).refusal? = some e ∧
        ((group goesOn steps).run s).session.filter = s.filter) ∨
      (runAll goesOn s.inside steps).refusal? = none ∧
        s.filter.objection?
          (runAll goesOn s.inside steps).session.filter.build.toCondition = none := by
  have hclose := s.filter.close_cases ⟨(runAll goesOn s.inside steps).session.filter,
    (runAll goesOn s.inside steps).refusal?⟩
  rcases hclose with ⟨e, hclose⟩ | ⟨hnone, hno, -⟩
  · exact Or.inl ⟨e, by rw [run, hclose]; exact ⟨rfl, rfl⟩⟩
  · exact Or.inr ⟨hnone, hno⟩

/-! ## What a step does to the filter -/

/-- The step turns the join to `or`, or attempts to. -/
def turnsOr : Step α → Bool
  | or => true
  | attempt step => step.turnsOr
  | _ => false

/-- The step gives up conditions by design, or attempts to: `and` those of
the group, `load` all of them. -/
def forgets : Step α → Bool
  | and => true
  | load _ => true
  | attempt step => step.forgets
  | _ => false

/-- **A step leaves the filter as it is or was not refused**, and then it
pushed some conditions, turned the join, or gave conditions up. -/
theorem filter_run_cases (s : Session α) :
    ∀ step : Step α, (step.run s).session.filter = s.filter ∨
      (step.run s).refusal? = none ∧
        ((∃ cs, (step.run s).session.filter = s.filter.pushAll cs) ∨
          step.turnsOr = true ∧ (step.run s).session.filter = s.filter.or ∨ step.forgets = true)
  | .look | .refuse _ | .keep _ _ | .save _ => Or.inl rfl
  | .and => Or.inr ⟨rfl, Or.inr (Or.inr rfl)⟩
  | .load name => by
      refine Or.inr ⟨?_, Or.inr (Or.inr rfl)⟩
      rw [run]
      split <;> rfl
  | .or => Or.inr ⟨rfl, Or.inr (Or.inl ⟨rfl, rfl⟩)⟩
  | .add c => by
      rcases s.filter.add_cases c with ⟨d, -, hadd⟩ | ⟨-, hadd⟩
      · exact Or.inl (by rw [run, hadd]; rfl)
      · exact Or.inr (by rw [run, hadd]; exact ⟨rfl, Or.inl ⟨[c], rfl⟩⟩)
  | .addLeaf leaf => by
      rcases s.filter.addLeaf_cases leaf with ⟨e, -, hadd⟩ | ⟨cs, -, -, hadd⟩
      · exact Or.inl (by rw [run, hadd]; rfl)
      · exact Or.inr (by rw [run, hadd]; exact ⟨rfl, Or.inl ⟨cs, rfl⟩⟩)
  | .group goesOn steps => by
      rcases run_group_cases s goesOn steps with ⟨e, -, hsame⟩ | ⟨hnone, hno⟩
      · exact Or.inl hsame
      · exact Or.inr (by rw [run_group hnone hno]; exact ⟨rfl, Or.inl ⟨[_], rfl⟩⟩)
  | .attempt step => by
      rcases filter_run_cases s step with hsame | ⟨-, hcases⟩
      · exact Or.inl hsame
      · exact Or.inr ⟨rfl, hcases⟩
  | .ask query negated r items => by
      refine Or.inl ?_
      rw [run]
      split <;> rfl
  | .negateKept name => by
      refine Or.inl ?_
      rw [run]
      split <;> rfl
  | .addKept name => by
      rw [run]
      split
      · rename_i p _
        rcases s.filter.add_cases p.toCondition with ⟨d, -, hadd⟩ | ⟨-, hadd⟩
        · exact Or.inl (by rw [hadd]; rfl)
        · exact Or.inr (by rw [hadd]; exact ⟨rfl, Or.inl ⟨[_], rfl⟩⟩)
      · exact Or.inl rfl

/-! ## Steps inside -/

/-- Only groups and attempts have steps inside. -/
theorem inner_run_cases (s : Session α) (step : Step α) :
    (step.run s).inner = [] ∨ (∃ goesOn steps, step = group goesOn steps) ∨
      ∃ inner, step = attempt inner := by
  cases step with
  | group goesOn steps => exact Or.inr (Or.inl ⟨goesOn, steps, rfl⟩)
  | attempt inner => exact Or.inr (Or.inr ⟨inner, rfl⟩)
  | ask | negateKept | addKept | load =>
      refine Or.inl ?_
      rw [run]
      split <;> rfl
  | _ => exact Or.inl rfl

/-! ## Rows of steps -/

/-- After a step that does not end it, a run is the run of the rest. -/
theorem runAll_cons (h : goesOn = true ∨ (step.run s).refusal? = none) :
    runAll goesOn s (step :: rest) =
      ⟨step.run s :: (runAll goesOn (step.run s).session rest).reports,
        (runAll goesOn (step.run s).session rest).session,
        (runAll goesOn (step.run s).session rest).refusal?⟩ := by
  rw [runAll]
  intro e hends he
  rcases h with rfl | h
  · cases hends
  · rw [h] at he; cases he

/-- A refused step ends a run that does not go on. -/
theorem runAll_cons_of_refused {e : Error} (h : (step.run s).refusal? = some e) :
    runAll false s (step :: rest) = ⟨[step.run s], (step.run s).session, some e⟩ := by
  simp [runAll, h]

/-- A step ends a run or it does not. -/
theorem goesOn_or_refused (goesOn : Bool) (s : Session α) (step : Step α) :
    (goesOn = true ∨ (step.run s).refusal? = none) ∨
      goesOn = false ∧ ∃ e, (step.run s).refusal? = some e := by
  cases goesOn with
  | true => exact Or.inl (Or.inl rfl)
  | false =>
      rcases h : (step.run s).refusal? with - | e
      · exact Or.inl (Or.inr rfl)
      · exact Or.inr ⟨rfl, e, rfl⟩

/-- A run that goes on is never refused. -/
theorem refusal?_runAll_true (s : Session α) (steps : List (Step α)) :
    (runAll true s steps).refusal? = none := by
  induction steps generalizing s with
  | nil => rfl
  | cons step rest ih => rw [runAll_cons (Or.inl rfl)]; exact ih _

/-- **Two programs in a row run one after the other.** -/
theorem session_runAll_append (s : Session α) (first second : List (Step α)) :
    (runAll true s (first ++ second)).session =
      (runAll true (runAll true s first).session second).session := by
  induction first generalizing s with
  | nil => rfl
  | cons step rest ih =>
      rw [List.cons_append, runAll_cons (Or.inl rfl), runAll_cons (Or.inl rfl)]
      exact ih _

end Step

/-! ## Reachable sessions -/

/-- The filter at work is reachable, and so are all that were saved. -/
structure Session.Reachable {α : Type} (config : Config) (s : Session α) : Prop where
  filter : s.filter.Reachable config
  saved : ∀ entry ∈ s.saved, entry.2.Reachable config

namespace Session.Reachable

variable {α : Type} {config : Config} {s : Session α}

theorem ofConfig (config : Config) : (Session.ofConfig config : Session α).Reachable config :=
  ⟨.empty, by simp [Session.ofConfig]⟩

/-- A group begins with an empty filter of the same configuration. -/
theorem inside (h : s.Reachable config) : s.inside.Reachable config :=
  ⟨by rw [Session.inside, h.filter.config_eq]; exact .empty, h.saved⟩

/-- Another reachable filter may take the place of the one at work. -/
theorem withFilter (h : s.Reachable config) {f : Filter α} (hf : f.Reachable config) :
    ({ s with filter := f } : Session α).Reachable config :=
  ⟨hf, h.saved⟩

end Session.Reachable

namespace Step

variable {α : Type} {config : Config}

mutual

/-- **One step keeps a session reachable**, refused or not. -/
theorem run_reachable {s : Session α} (h : s.Reachable config) :
    ∀ step : Step α, (step.run s).session.Reachable config
  | .look => h
  | .refuse _ => h
  | .add c => h.withFilter (h.filter.add c)
  | .addLeaf leaf => h.withFilter (h.filter.addLeaf leaf)
  | .and => h.withFilter h.filter.and
  | .or => h.withFilter h.filter.or
  | .group goesOn steps => by
      have hinner := runAll_reachable h.inside goesOn steps
      rw [run]
      exact hinner.withFilter (h.filter.close _)
  | .attempt step => by
      rw [run]
      exact run_reachable h step
  | .ask query negated r items => by
      rw [run]; split <;> exact h
  | .keep _ _ => ⟨h.filter, h.saved⟩
  | .negateKept name => by
      rw [run]; split <;> exact ⟨h.filter, h.saved⟩
  | .addKept name => by
      rw [run]; split
      · exact h.withFilter (h.filter.add _)
      · exact h
  | .save name => by
      refine ⟨h.filter, fun entry hentry => ?_⟩
      rcases List.mem_cons.mp hentry with rfl | hmem
      · exact h.filter
      · exact h.saved entry hmem
  | .load name => by
      rw [run]; split
      · rename_i f hf
        obtain ⟨before, after, hsaved, -⟩ := List.lookup_eq_some_iff.mp hf
        exact h.withFilter (h.saved (name, f) (by simp [hsaved]))
      · exact h

/-- **And so does a run**, whether or not it goes on after a refusal. -/
theorem runAll_reachable {s : Session α} (h : s.Reachable config) (goesOn : Bool) :
    ∀ steps : List (Step α), (runAll goesOn s steps).session.Reachable config
  | [] => h
  | step :: rest => by
      have hstep := run_reachable h step
      rcases goesOn_or_refused goesOn s step with hgo | ⟨rfl, e, he⟩
      · rw [runAll_cons hgo]; exact runAll_reachable hstep goesOn rest
      · rw [runAll_cons_of_refused he]; exact hstep

end

mutual

/-- **Also the sessions on the way are reachable**, those inside groups
among them. -/
theorem run_throughout {s : Session α} (h : s.Reachable config) (step : Step α) :
    (step.run s).Throughout (Session.Reachable config) := by
  have hinner := inner_run_cases s step
  refine .mk (run_reachable h step) fun inside hinside => ?_
  cases step with
  | group goesOn steps => exact runAll_throughout h.inside goesOn steps inside hinside
  | attempt step =>
      obtain rfl : inside = step.run s := List.mem_singleton.mp hinside
      exact run_throughout h step
  | _ => rw [hinner.resolve_right (by simp)] at hinside; cases hinside

theorem runAll_throughout {s : Session α} (h : s.Reachable config) (goesOn : Bool)
    (steps : List (Step α)) :
    ∀ report ∈ (runAll goesOn s steps).reports, report.Throughout (Session.Reachable config) := by
  cases steps with
  | nil => intro report hreport; cases hreport
  | cons step rest =>
      intro report hreport
      rcases goesOn_or_refused goesOn s step with hgo | ⟨rfl, e, he⟩
      · rw [runAll_cons hgo] at hreport
        rcases List.mem_cons.mp hreport with rfl | hmem
        · exact run_throughout h step
        · exact runAll_throughout (run_reachable h step) goesOn rest report hmem
      · rw [runAll_cons_of_refused he] at hreport
        obtain rfl : report = step.run s := List.mem_singleton.mp hreport
        exact run_throughout h step

end

/-- The filter a program ends with is reachable. -/
theorem program_reachable (config : Config) (steps : List (Step α)) :
    (program config steps).session.filter.Reachable config :=
  (runAll_reachable (.ofConfig config) true steps).filter

/-- **And any reachable filter is one that a program ends with.** -/
theorem exists_program_of_reachable {f : Filter α} (h : f.Reachable config) :
    ∃ steps : List (Step α), (program config steps).session.filter = f := by
  induction h with
  | empty => exact ⟨[], rfl⟩
  | @push f c _ hc ih =>
      obtain ⟨steps, rfl⟩ := ih
      refine ⟨steps ++ [.add c], ?_⟩
      rw [program, session_runAll_append]
      change ((program config steps).session.filter.add c).filter = _
      rw [Filter.add, hc]
  | and _ ih =>
      obtain ⟨steps, rfl⟩ := ih
      exact ⟨steps ++ [.and], by rw [program, session_runAll_append]; rfl⟩
  | or _ ih =>
      obtain ⟨steps, rfl⟩ := ih
      exact ⟨steps ++ [.or], by rw [program, session_runAll_append]; rfl⟩

end Step

end Criteria
