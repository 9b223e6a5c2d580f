import Criteria.Proofs.Step.Run
/-!
# Programs — formulas

A formula of conditions has a program: a condition is added, the two sides
of a connective are groups with the join between them, and what is negated
is run on a filter of its own and comes in as the condition that its
negation makes. The program is never refused, at any depth and under any
configuration, since what a side comes to is a combination and so is taken,
and the filter decides as the formula does.
-/

namespace Criteria

/-- A formula of conditions none of which is degenerate. -/
inductive Formula (α : Type)
  | leaf (c : Condition α) (discerning : c.degeneracy? = none)
  | and (left right : Formula α)
  | or (left right : Formula α)
  | not (formula : Formula α)

namespace Formula

variable {α : Type}

/-- What the formula says of an item. -/
def value : Formula α → Clock.Readings → α → Bool
  | leaf c _ => c.holds
  | and left right => fun r item => left.value r item && right.value r item
  | or left right => fun r item => left.value r item || right.value r item
  | not formula => fun r item => !formula.value r item

/-- The program of the formula. The filters that its negations are run on
have a configuration of their own. -/
def steps (fresh : Config) : Formula α → List (Step α)
  | leaf c _ => [.add c]
  | and left right => [.group false (left.steps fresh), .group false (right.steps fresh)]
  | or left right => [.group false (left.steps fresh), .or, .group false (right.steps fresh)]
  | not formula =>
      [.add (Step.program fresh (formula.steps fresh)).session.filter.buildNegated.toCondition]

end Formula

/-- Nothing was refused, and the filter holds something and decides by the
value. -/
structure Trace.Expresses {α : Type} (t : Trace α) (value : Clock.Readings → α → Bool) : Prop where
  smooth : ∀ report ∈ t.reports, report.Smooth
  refusal?_eq_none : t.refusal? = none
  isEmpty_eq_false : t.session.filter.isEmpty = false
  test_build : ∀ r item, t.session.filter.build.test r item = value r item

namespace Step

variable {α : Type} {s : Session α} {goesOn : Bool} {first second : Step α}
  {v w : Clock.Readings → α → Bool}

/-! ## Steps that push one condition -/

/-- The step pushes one condition that decides by the value, and nothing is
refused. -/
def Pushes (s : Session α) (step : Step α) (value : Clock.Readings → α → Bool) : Prop :=
  ∃ c : Condition α, (∀ r item, c.holds r item = value r item) ∧ (step.run s).Smooth ∧
    (step.run s).session.filter = s.filter.push c

/-- To add a condition that is not degenerate is such a step. -/
theorem pushes_add {c : Condition α} (s : Session α) (hc : c.degeneracy? = none) :
    Pushes s (.add c) c.holds := by
  have hrun : (Step.add c).run s = .mk { s with filter := s.filter.push c } none none [] := by
    rw [run, Filter.add_of_discerning s.filter hc]
    rfl
  refine ⟨c, fun _ _ => rfl, ?_, ?_⟩
  · rw [hrun]
    exact .mk (by simp)
  · rw [hrun, Report.session_mk]

/-- **And so is a group of steps that express the value**: what they come
to is not degenerate, since they hold something. -/
theorem pushes_group {steps : List (Step α)} (h : (runAll goesOn s.inside steps).Expresses v) :
    Pushes s (.group goesOn steps) v := by
  have hrun := run_group h.refusal?_eq_none
    (Filter.objection?_of_discerning s.filter (Filter.discerning_build h.isEmpty_eq_false))
  refine ⟨(runAll goesOn s.inside steps).session.filter.build.toCondition, h.test_build, ?_, ?_⟩
  · rw [hrun]
    exact .mk h.smooth
  · rw [hrun, Report.session_mk]

/-! ## Rows of such steps on an empty filter -/

variable {config : Config}

/-- One of them expresses its value. -/
theorem expresses_single (hs : s.filter = .ofConfig config) (hfirst : Pushes s first v) :
    (runAll goesOn s [first]).Expresses v := by
  obtain ⟨c, hc, hsmooth, hfilter⟩ := hfirst
  rw [hs] at hfilter
  rw [runAll_cons (Or.inr hsmooth.refusal?_eq_none)]
  refine ⟨by simpa [runAll] using hsmooth, rfl, ?_, fun r item => ?_⟩
  · show (first.run s).session.filter.isEmpty = false
    rw [hfilter]
    exact Filter.isEmpty_push
  · show (first.run s).session.filter.build.test r item = v r item
    rw [hfilter]
    exact hc r item

/-- Two in a row express the conjunction: the second stands behind the
first in the chain. -/
theorem expresses_and (hs : s.filter = .ofConfig config) (hfirst : Pushes s first v)
    (hsecond : Pushes (first.run s).session second w) :
    (runAll goesOn s [first, second]).Expresses fun r item => v r item && w r item := by
  obtain ⟨c, hc, hsmooth, hfilter⟩ := hfirst
  obtain ⟨d, hd, hsmooth', hfilter'⟩ := hsecond
  rw [hfilter, hs] at hfilter'
  rw [runAll_cons (Or.inr hsmooth.refusal?_eq_none), runAll_cons (Or.inr hsmooth'.refusal?_eq_none)]
  refine ⟨by simpa [runAll] using ⟨hsmooth, hsmooth'⟩, rfl, ?_, fun r item => ?_⟩
  · show (second.run (first.run s).session).session.filter.isEmpty = false
    rw [hfilter']
    exact Filter.isEmpty_push
  · show (second.run (first.run s).session).session.filter.build.test r item = _
    rw [hfilter', ← hc, ← hd]
    rfl

/-- With `or` between them they express the disjunction: the first is taken
out of the chain into a group, and the second joins it there. -/
theorem expresses_or (hs : s.filter = .ofConfig config) (hfirst : Pushes s first v)
    (hsecond : Pushes (Step.or.run (first.run s).session).session second w) :
    (runAll goesOn s [first, .or, second]).Expresses fun r item => v r item || w r item := by
  obtain ⟨c, hc, hsmooth, hfilter⟩ := hfirst
  obtain ⟨d, hd, hsmooth', hfilter'⟩ := hsecond
  have hor : (Step.or.run (first.run s).session).session.filter = (first.run s).session.filter.or :=
    rfl
  rw [hor, hfilter, hs] at hfilter'
  have hsmoothOr : (Step.or.run (first.run s).session).Smooth := .mk (by simp)
  rw [runAll_cons (Or.inr hsmooth.refusal?_eq_none), runAll_cons (Or.inr rfl),
    runAll_cons (Or.inr hsmooth'.refusal?_eq_none)]
  refine ⟨by simpa [runAll] using ⟨hsmooth, hsmoothOr, hsmooth'⟩, rfl, ?_, fun r item => ?_⟩
  · show (second.run (Step.or.run (first.run s).session).session).session.filter.isEmpty = false
    rw [hfilter']
    exact Filter.isEmpty_push
  · show (second.run (Step.or.run (first.run s).session).session).session.filter.build.test r item
      = _
    rw [hfilter', ← hc, ← hd]
    rfl

/-! ## Formulas -/

/-- **A formula's program expresses its value on every empty filter.** By
induction on the formula: a side is run inside a group, where the filter is
empty again, and a negation on a filter that is empty too. -/
theorem expresses_formula (fresh : Config) (formula : Formula α) (goesOn : Bool)
    (s : Session α) (hs : s.filter = .ofConfig config) :
    (runAll goesOn s (formula.steps fresh)).Expresses formula.value := by
  induction formula generalizing goesOn s config with
  | leaf c discerning => exact expresses_single hs (pushes_add s discerning)
  | and left right ihl ihr =>
      have hleft : Pushes s (.group false (left.steps fresh)) left.value :=
        pushes_group (ihl false s.inside rfl)
      exact expresses_and hs hleft (pushes_group (ihr false _ rfl))
  | or left right ihl ihr =>
      have hleft : Pushes s (.group false (left.steps fresh)) left.value :=
        pushes_group (ihl false s.inside rfl)
      exact expresses_or hs hleft (pushes_group (ihr false _ rfl))
  | not formula ih =>
      -- the program on the other filter is the same program, so the hypothesis speaks of it too
      have hinner := ih true (.ofConfig fresh) rfl
      have hadd := pushes_add s
        (program fresh (formula.steps fresh)).session.filter.discerning_buildNegated
      have hsingle : (runAll goesOn s ((Formula.not formula).steps fresh)).Expresses _ :=
        expresses_single hs hadd
      refine ⟨hsingle.smooth, hsingle.refusal?_eq_none, hsingle.isEmpty_eq_false, fun r item => ?_⟩
      exact (hsingle.test_build r item).trans (congrArg (!·) (hinner.test_build r item))

/-- **Groups express every formula.** Under every configuration the
formula's program goes through with nothing refused at any depth, its filter
accepts the items that the formula is true of, and the negation the
others. -/
theorem program_formula (config fresh : Config) (formula : Formula α) :
    let t := program config (formula.steps fresh)
    (∀ report ∈ t.reports, report.Smooth) ∧ ∀ r item,
      t.session.filter.build.test r item = formula.value r item ∧
        t.session.filter.buildNegated.test r item = !formula.value r item := by
  intro t
  have ht : t.Expresses formula.value := expresses_formula fresh formula true _ rfl
  refine ⟨ht.smooth, fun r item => ⟨ht.test_build r item, ?_⟩⟩
  rw [Filter.test_buildNegated, ht.test_build]

end Step

end Criteria
