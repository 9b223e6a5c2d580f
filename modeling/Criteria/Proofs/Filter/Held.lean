import Criteria.Proofs.Step.Run
/-!
# Filters — what they hold

A filter holds the conditions of its chain and those of the open group, and
a condition that is added comes last among them, whichever of the two takes
it. `or` moves the last condition of the chain into a group of its own: it
keeps all that is held where no group is open, and with a group and a chain
it keeps the chain alone. So what has joined a group is safe up to the next
`and` only where no chain is left of the group.
-/

namespace Criteria

namespace Filter

variable {α : Type} {f : Filter α} {c : Condition α}

/-- The conditions held: those of the chain, then the alternatives. -/
def conditions (f : Filter α) : List (Condition α) := f.records.map Prod.fst ++ f.group

/-- The size counts them. -/
theorem length_conditions (f : Filter α) : f.conditions.length = f.size := by
  simp [conditions, size]

/-- Without a group the chain is all that is held. -/
theorem conditions_of_group_nil (h : f.group = []) : f.conditions = f.records.map Prod.fst := by
  rw [conditions, h, List.append_nil]

/-- A filter is empty if it holds nothing. -/
theorem isEmpty_eq_conditions (f : Filter α) : f.isEmpty = f.conditions.isEmpty := by
  obtain ⟨records, group, next, config⟩ := f
  cases records <;> cases group <;> rfl

/-! ## Adding -/

theorem conditions_push (f : Filter α) (c : Condition α) :
    (f.push c).conditions = f.conditions ++ [c] := by
  by_cases h : f.group = []
  · simp [push_of_group_nil h, conditions, h]
  · simp [push_of_group_ne_nil h, conditions]

/-- **What is added comes last, and all that was held stays.** -/
theorem conditions_pushAll (f : Filter α) (cs : List (Condition α)) :
    (f.pushAll cs).conditions = f.conditions ++ cs := by
  induction cs generalizing f with
  | nil => simp
  | cons c cs ih => rw [pushAll_cons, ih, conditions_push, List.append_assoc, List.singleton_append]

/-- What is added to an open group goes to its end. -/
theorem pushAll_of_group_ne_nil (h : f.group ≠ []) (cs : List (Condition α)) :
    (f.pushAll cs).records = f.records ∧ (f.pushAll cs).group = f.group ++ cs := by
  induction cs generalizing f with
  | nil => simp
  | cons c cs ih =>
      have hpush : (f.push c).group = f.group ++ [c] := by rw [push_of_group_ne_nil h]
      obtain ⟨hrecords, hgroup⟩ := ih (f := f.push c) (by simp [hpush])
      refine ⟨?_, ?_⟩
      · rw [pushAll_cons, hrecords, push_of_group_ne_nil h]
      · rw [pushAll_cons, hgroup, hpush, List.append_assoc, List.singleton_append]

/-! ## Turning the join -/

/-- From a chain `or` keeps the chain's conditions, as `and` does. -/
theorem conditions_or (h : f.records ≠ []) : f.or.conditions = f.records.map Prod.fst := by
  rcases f.records_cases with hr | ⟨records, c, j, hr⟩
  · exact absurd hr h
  · rw [or_of_records_append hr, hr]
    simp [conditions]

/-- Without a chain, or without a group, it keeps all. -/
theorem conditions_or_of_nil (h : f.records = [] ∨ f.group = []) :
    f.or.conditions = f.conditions := by
  by_cases hr : f.records = []
  · rw [or_of_records_nil hr]
    rfl
  · have hg : f.group = [] := h.resolve_left hr
    rw [conditions_or hr, conditions, hg, List.append_nil]

/-- **`or` keeps the size only there**: with both it loses the group. -/
theorem size_or_iff (f : Filter α) : f.or.size = f.size ↔ f.records = [] ∨ f.group = [] := by
  refine ⟨fun hsize => ?_, fun h => ?_⟩
  · by_cases hr : f.records = []
    · exact Or.inl hr
    · -- what is left is as long as the chain, so the group had nothing
      have hlength := congrArg List.length (conditions_or hr)
      rw [length_conditions, hsize, size, List.length_map] at hlength
      exact Or.inr (List.length_eq_zero_iff.mp (by omega))
  · rw [← length_conditions, conditions_or_of_nil h, length_conditions]

/-- And so with the conditions themselves, in whatever order. -/
theorem conditions_or_perm_iff (f : Filter α) :
    f.or.conditions.Perm f.conditions ↔ f.records = [] ∨ f.group = [] := by
  refine ⟨fun hperm => ?_, fun h => ?_⟩
  · have hlength := hperm.length_eq
    rw [length_conditions, length_conditions] at hlength
    exact f.size_or_iff.mp hlength
  · rw [conditions_or_of_nil h]

end Filter

namespace Step

variable {α : Type} {s : Session α} {step : Step α}

/-- A step that neither gives conditions up nor turns to `or` keeps all
that are held, in their order. -/
theorem conditions_run_prefix (hforgets : step.forgets = false) (hor : step.turnsOr = false) :
    s.filter.conditions <+: (step.run s).session.filter.conditions := by
  rcases filter_run_cases s step with hsame | ⟨-, ⟨cs, hpush⟩ | ⟨h, -⟩ | h⟩
  · exact ⟨[], by rw [hsame, List.append_nil]⟩
  · rw [hpush, Filter.conditions_pushAll]
    exact List.prefix_append _ _
  · rw [hor] at h; cases h
  · rw [hforgets] at h; cases h

/-! ## Groups without a chain -/

/-- With no chain left of it an open group only grows, and no chain
begins. -/
theorem group_run_prefix (hforgets : step.forgets = false) (hr : s.filter.records = [])
    (hg : s.filter.group ≠ []) :
    (step.run s).session.filter.records = [] ∧
      s.filter.group <+: (step.run s).session.filter.group := by
  rcases filter_run_cases s step with hsame | ⟨-, ⟨cs, hpush⟩ | ⟨-, hor⟩ | h⟩
  · rw [hsame]
    exact ⟨hr, List.prefix_rfl⟩
  · obtain ⟨hrecords, hgroup⟩ := Filter.pushAll_of_group_ne_nil hg cs
    rw [hpush, hrecords, hgroup]
    exact ⟨hr, List.prefix_append _ _⟩
  · rw [hor, Filter.or_of_records_nil hr]
    exact ⟨hr, List.prefix_rfl⟩
  · rw [hforgets] at h; cases h

/-- **Up to the next `and` it stays whole**, whatever steps follow and
whether or not a refused one ends them. -/
theorem group_runAll_prefix {steps : List (Step α)} {goesOn : Bool}
    (hforgets : ∀ step ∈ steps, step.forgets = false) (hr : s.filter.records = [])
    (hg : s.filter.group ≠ []) :
    s.filter.group <+: (runAll goesOn s steps).session.filter.group := by
  induction steps generalizing s with
  | nil => exact List.prefix_rfl
  | cons step rest ih =>
      obtain ⟨hrecords, hgroup⟩ := group_run_prefix (hforgets step (by simp)) hr hg
      rcases goesOn_or_refused goesOn s step with hgo | ⟨rfl, e, he⟩
      · have hne : (step.run s).session.filter.group ≠ [] := hgroup.ne_nil hg
        have hrest : ∀ next ∈ rest, next.forgets = false := fun next hnext =>
          hforgets next (by simp [hnext])
        rw [runAll_cons hgo]
        exact hgroup.trans (ih hrest hrecords hne)
      · rw [runAll_cons_of_refused he]
        exact hgroup

/-! ## What programs lose -/

/-- **`or` keeps what a program has collected only where it finds no chain
or no group**, and else the conditions of the chain alone. The steps that
add keep everything, and a group without a chain stays whole up to the next
`and`. -/
theorem program_or_conditions (config : Config) (steps : List (Step α)) :
    let s := (program config steps).session
    let f := s.filter
    (f.or.conditions.Perm f.conditions ↔ f.records = [] ∨ f.group = []) ∧
      (f.or.size = f.size ↔ f.records = [] ∨ f.group = []) ∧
      (f.records ≠ [] → f.or.conditions = f.records.map Prod.fst) ∧
      (∀ step : Step α, step.forgets = false → step.turnsOr = false →
        f.conditions <+: (step.run s).session.filter.conditions) ∧
      (f.records = [] → f.group ≠ [] → ∀ goesOn (more : List (Step α)),
        (∀ step ∈ more, step.forgets = false) →
          f.group <+: (runAll goesOn s more).session.filter.group) := by
  intro s f
  refine ⟨f.conditions_or_perm_iff, f.size_or_iff, Filter.conditions_or, ?_, ?_⟩
  · intro step hforgets hor
    exact conditions_run_prefix hforgets hor
  · intro hr hg goesOn more hforgets
    exact group_runAll_prefix hforgets hr hg

/-- After two conditions the second `or` in a row loses the second of
them. -/
theorem size_or_or_lt :
    let one : Condition Nat := .ofTest (· == 1)
    let two : Condition Nat := .ofTest (· == 2)
    let f := (program .standard [.add one, .add two, .or]).session.filter
    f.size = 2 ∧ f.or.size = 1 ∧ ¬ f.or.conditions.Perm f.conditions := by
  intro one two f
  have hsize : f.size = 2 := rfl
  have hor : f.or.size = 1 := rfl
  refine ⟨hsize, hor, fun hperm => ?_⟩
  have hlength := hperm.length_eq
  rw [Filter.length_conditions, Filter.length_conditions, hsize, hor] at hlength
  cases hlength

end Step

end Criteria
