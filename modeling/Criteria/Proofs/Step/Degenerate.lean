import Criteria.Proofs.Filter.Held
/-!
# Programs — degenerate conditions

A filter that is configured to refuse degenerate conditions holds none,
however its conditions have moved between chain and group. What a filter
compiles to is degenerate only where the filter is empty, so a group is
refused as degenerate by how its steps ended and by nothing they did before,
and a predicate may be added again unless it accepts everything for want of
a condition.
-/

namespace Criteria

namespace Filter

variable {α : Type} {config : Config} {f : Filter α}

/-! ## What is held -/

/-- What `or` leaves was held before. -/
theorem conditions_or_subset (f : Filter α) : f.or.conditions ⊆ f.conditions := by
  by_cases hr : f.records = []
  · rw [conditions_or_of_nil (Or.inl hr)]
    exact List.Subset.refl _
  · rw [conditions_or hr]
    exact List.subset_append_left _ _

/-- And so was what `and` leaves. -/
theorem conditions_and_subset (f : Filter α) : f.and.conditions ⊆ f.conditions := by
  rw [conditions_of_group_nil rfl]
  exact List.subset_append_left _ _

/-- **A filter that refuses degenerate conditions holds none.** Only `push`
brings one in, and not against the filter's objection. -/
theorem Reachable.discerning_of_mem_conditions (h : f.Reachable config)
    (hrejects : config.rejectDegenerate = true) :
    ∀ c ∈ f.conditions, c.degeneracy? = none := by
  induction h with
  | empty => intro c hc; cases hc
  -- the only step that adds: what the filter would not object to
  | @push f c hf hno ih =>
      intro d hd
      rw [conditions_push, List.mem_append, List.mem_singleton] at hd
      rcases hd with hheld | rfl
      · exact ih d hheld
      · simpa [objection?, hf.config_eq, hrejects] using hno
  | and _ ih => exact fun c hc => ih c (conditions_and_subset _ hc)
  | or _ ih => exact fun c hc => ih c (conditions_or_subset _ hc)

/-! ## What is refused -/

/-- A condition is refused for the filter's objection to it. -/
theorem refusal?_add (f : Filter α) (c : Condition α) :
    (f.add c).refusal? = (f.objection? c).map .degenerate := by
  rcases f.add_cases c with ⟨d, hd, hadd⟩ | ⟨hno, hadd⟩
  · rw [hadd, hd]; rfl
  · rw [hadd, hno]; rfl

/-- **A predicate is refused where it comes from an empty filter** and the
filter it is added to refuses degenerate conditions. -/
theorem refusal?_add_build (f g : Filter α) :
    (f.add g.build.toCondition).refusal? =
      if f.config.rejectDegenerate && g.isEmpty then some (.degenerate .alwaysTrue) else none := by
  rw [refusal?_add, objection?, degeneracy?_build]
  cases f.config.rejectDegenerate <;> cases g.isEmpty <;> rfl

/-- A negated predicate never is. -/
theorem refusal?_add_negate (f : Filter α) (p : Predicate α) :
    (f.add p.negate.toCondition).refusal? = none := by
  have hp : p.negate.toCondition.degeneracy? = none := rfl
  rw [add_of_discerning f hp]

/-- A group is refused for the first refusal inside, or else for what its
filter came to. -/
theorem refusal?_close (f : Filter α) (inner : Outcome α) :
    (f.close inner).refusal? = inner.refusal?.or
      (if f.config.rejectDegenerate && inner.filter.isEmpty then some (.degenerate .alwaysTrue)
        else none) := by
  rcases h : inner.refusal? with - | e
  · rw [Option.none_or, ← refusal?_add_build, close, h]
  · rw [Option.some_or, close, h]

end Filter

/-- The filter at work and those that were saved. -/
def Session.filters {α : Type} (s : Session α) : List (Filter α) :=
  s.filter :: s.saved.map Prod.snd

/-- In a reachable session all of them are reachable. -/
theorem Session.Reachable.of_mem_filters {α : Type} {config : Config} {s : Session α}
    (h : s.Reachable config) : ∀ f ∈ s.filters, f.Reachable config := by
  intro f hf
  rcases List.mem_cons.mp hf with rfl | hsaved
  · exact h.filter
  · obtain ⟨entry, hentry, rfl⟩ := List.mem_map.mp hsaved
    exact h.saved entry hentry

namespace Step

variable {α : Type}

/-- **Degenerate conditions stay out, and compiled shapes tell whether a
filter is empty.** In a program that is configured to refuse them no filter
holds a degenerate condition at any time, inside groups or out. Under every
configuration a filter compiles to the literal `true` where it is empty and
to a combination otherwise, and its negation is always a combination. So a
group whose steps were not refused is refused, as always true, exactly where
degenerate conditions are and the filter inside ended empty; and so is a
predicate that is added again, but never a negated one. -/
theorem program_degenerate (config : Config) (steps : List (Step α)) :
    (∀ report ∈ (program config steps).reports, report.Throughout fun s =>
        config.rejectDegenerate = true →
          ∀ f ∈ s.filters, ∀ c ∈ f.conditions, c.degeneracy? = none) ∧
      (∀ f : Filter α, f.build.shape = (if f.isEmpty then .literal true else .logical) ∧
        f.buildNegated.shape = .logical) ∧
      (∀ (s : Session α) (goesOn : Bool) (inside : List (Step α)),
        let inner := runAll goesOn s.inside inside
        ((group goesOn inside).run s).refusal? = inner.refusal?.or
          (if s.filter.config.rejectDegenerate && inner.session.filter.isEmpty then
            some (.degenerate .alwaysTrue) else none)) ∧
      ∀ f : Filter α,
        (∀ g : Filter α, (f.add g.build.toCondition).refusal? =
          if f.config.rejectDegenerate && g.isEmpty then some (.degenerate .alwaysTrue)
            else none) ∧
        ∀ p : Predicate α, (f.add p.negate.toCondition).refusal? = none := by
  refine ⟨fun report hreport => ?_, fun f => ⟨f.shape_build, rfl⟩, fun s goesOn inside => ?_,
    fun f => ⟨f.refusal?_add_build, f.refusal?_add_negate⟩⟩
  · have hreach := runAll_throughout (.ofConfig config) true steps report hreport
    refine hreach.mono fun s hs hrejects f hf => ?_
    exact (hs.of_mem_filters f hf).discerning_of_mem_conditions hrejects
  · exact s.filter.refusal?_close _

/-- A group that gave up all it had is refused as an empty one is. -/
example :
    let one : Condition Nat := .ofTest (· == 1)
    ((group false [.add one, .or, .add one, .and]).run (.ofConfig .standard)).refusal? =
      some (.degenerate .alwaysTrue) := rfl

end Step

end Criteria
