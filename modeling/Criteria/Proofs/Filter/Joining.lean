import Criteria.Proofs.Filter.Held
import Criteria.Proofs.Filter.NormalForm
/-!
# Filters — alternatives, opened and dropped

What `or` and `and` come to from a reachable filter with a chain and no
group open. After `or` the last condition of the chain and what is then
added are alternatives, and the rest of the chain still binds; after `and`
the alternatives are gone, the condition that `or` took included, and what
is added continues the chain that `or` left.
-/

namespace Criteria

namespace Filter

variable {α : Type} {f : Filter α} {last : Condition α} {rest more : List (Condition α)}

/-! ## Rows of conditions -/

/-- After a row of conditions the join is `and` again. -/
theorem pushAll_next (h : f.next = .and ∨ more ≠ []) : (f.pushAll more).next = .and := by
  induction more generalizing f with
  | nil => exact h.resolve_right (by simp)
  | cons c more ih => exact ih (Or.inl (push_next c))

/-- A row opens no group. -/
theorem pushAll_group_of_nil (h : f.group = []) : (f.pushAll more).group = [] := by
  induction more generalizing f with
  | nil => exact h
  | cons c more ih => exact ih (by rw [push_of_group_nil h]; exact h)

theorem Normal.pushAll (h : f.Normal) (cs : List (Condition α)) : (f.pushAll cs).Normal := by
  induction cs generalizing f with
  | nil => exact h
  | cons c cs ih => exact ih (h.push c)

/-! ## Verdicts -/

/-- Without a group the verdict wants all that is held. -/
theorem verdict_of_group_nil (h : f.group = []) (r : Clock.Readings) (item : α) :
    f.verdict r item = f.conditions.all fun c => c.holds r item := by
  rw [conditions_of_group_nil h]
  obtain ⟨records, group, next, config⟩ := f
  obtain rfl : group = [] := h
  cases records <;> simp [verdict, Function.comp_def]

/-- With a group and `and` in hand it wants the chain and one of the
group. -/
theorem verdict_of_next_and (hnext : f.next = .and) (hg : f.group ≠ []) (r : Clock.Readings)
    (item : α) :
    f.verdict r item =
      ((f.records.map Prod.fst).all (fun c => c.holds r item) &&
        f.group.any fun c => c.holds r item) := by
  obtain ⟨records, group, next, config⟩ := f
  obtain rfl : next = .and := hnext
  cases group with
  | nil => exact absurd rfl hg
  | cons c others => cases records <;> simp [verdict, Join.decide, Function.comp_def]

/-- **A row on a chain without a group binds whole**: the filter wants all
that was held and all of the row. -/
theorem Normal.test_build_pushAll (hf : f.Normal) (hg : f.group = []) (r : Clock.Readings)
    (item : α) :
    (f.pushAll more).build.test r item = (f.conditions ++ more).all fun c => c.holds r item := by
  rw [(hf.pushAll more).test_build, verdict_of_group_nil (pushAll_group_of_nil hg),
    conditions_pushAll]

/-- **A row in an open group is so many alternatives**: the filter wants the
chain and one of the group or of the row. -/
theorem Normal.test_build_pushAll_group (hf : f.Normal) (hg : f.group ≠ []) (hmore : more ≠ [])
    (r : Clock.Readings) (item : α) :
    (f.pushAll more).build.test r item =
      ((f.records.map Prod.fst).all (fun c => c.holds r item) &&
        (f.group ++ more).any fun c => c.holds r item) := by
  obtain ⟨hrecords, hgroup⟩ := pushAll_of_group_ne_nil hg more
  -- whatever join the group was opened with, a condition after it turns it back
  have hnext : (f.pushAll more).next = .and := pushAll_next (Or.inr hmore)
  rw [(hf.pushAll more).test_build, verdict_of_next_and hnext (by rw [hgroup]; simp [hg]),
    hrecords, hgroup]

/-! ## Opening a group -/

/-- `or` parts the chain before its last condition. -/
theorem or_of_conditions (hg : f.group = []) (h : f.conditions = rest ++ [last]) :
    f.or.records.map Prod.fst = rest ∧ f.or.group = [last] := by
  rw [conditions_of_group_nil hg] at h
  rcases f.records_cases with hr | ⟨records, c, j, hr⟩
  · rw [hr] at h; simp at h
  · rw [hr, List.map_append, List.map_singleton] at h
    obtain ⟨hrest, hlast⟩ := List.append_inj' h rfl
    rw [or_of_records_append hr]
    exact ⟨hrest, hlast⟩

/-- **With alternatives added after `or`, the filter wants what is left of
the chain and one of the alternatives**, the condition that was last in the
chain among them. -/
theorem Normal.test_build_or (hf : f.Normal) (hg : f.group = [])
    (h : f.conditions = rest ++ [last]) (hmore : more ≠ []) (r : Clock.Readings) (item : α) :
    (f.or.pushAll more).build.test r item =
      (rest.all (fun c => c.holds r item) && (last :: more).any fun c => c.holds r item) := by
  obtain ⟨hrecords, hgroup⟩ := or_of_conditions hg h
  have hopen : f.or.group ≠ [] := by rw [hgroup]; simp
  rw [hf.or.test_build_pushAll_group hopen hmore, hrecords, hgroup, List.singleton_append]

/-! ## Dropping it -/

/-- After `and` the chain that `or` left is all that is held, whatever
alternatives were added. -/
theorem conditions_and_of_or (hg : f.group = []) (h : f.conditions = rest ++ [last]) :
    (f.or.pushAll more).and.conditions = rest := by
  obtain ⟨hrecords, hgroup⟩ := or_of_conditions hg h
  have hopen : f.or.group ≠ [] := by rw [hgroup]; simp
  have hkept : (f.or.pushAll more).records = f.or.records := (pushAll_of_group_ne_nil hopen more).1
  rw [conditions_of_group_nil rfl]
  exact (congrArg (List.map Prod.fst) hkept).trans hrecords

/-- **What is added after `and` continues a chain without a group**: the
filter wants all that is held. -/
theorem Normal.test_build_and (hf : f.Normal) (r : Clock.Readings) (item : α) :
    (f.and.pushAll more).build.test r item =
      (f.and.conditions ++ more).all fun c => c.holds r item :=
  hf.and.test_build_pushAll rfl r item

end Filter

namespace Step

variable {α : Type} {s : Session α}

/-- A row of conditions that the filter does not object to is pushed, and
none of them is refused. -/
theorem runAll_add (goesOn : Bool) (s : Session α) {cs : List (Condition α)}
    (h : ∀ c ∈ cs, s.filter.objection? c = none) :
    (runAll goesOn s (cs.map .add)).session = { s with filter := s.filter.pushAll cs } ∧
      (runAll goesOn s (cs.map .add)).refusal? = none := by
  induction cs generalizing s with
  | nil => exact ⟨rfl, rfl⟩
  | cons c cs ih =>
      have hrun : (Step.add c).run s = .mk { s with filter := s.filter.push c } none none [] := by
        rw [run, Filter.add_of_objection?_none (h c (by simp))]
        rfl
      have hcs : ∀ d ∈ cs, (s.filter.push c).objection? d = none := fun d hd => by
        rw [Filter.objection?_congr Filter.push_config d]
        exact h d (by simp [hd])
      rw [List.map_cons, runAll_cons (Or.inr (by rw [hrun]; rfl)), hrun]
      exact ih _ hcs

/-- And so after a step that was not refused and kept the configuration. -/
theorem runAll_cons_add (goesOn : Bool) {step : Step α} {cs : List (Condition α)}
    (hnone : (step.run s).refusal? = none)
    (hconfig : (step.run s).session.filter.config = s.filter.config)
    (h : ∀ c ∈ cs, s.filter.objection? c = none) :
    (runAll goesOn s (step :: cs.map .add)).session.filter =
        (step.run s).session.filter.pushAll cs ∧
      (runAll goesOn s (step :: cs.map .add)).refusal? = none := by
  rw [runAll_cons (Or.inr hnone)]
  obtain ⟨hsession, hrow⟩ := runAll_add goesOn (step.run s).session fun c hc =>
    (Filter.objection?_congr hconfig c).trans (h c hc)
  exact ⟨congrArg Session.filter hsession, hrow⟩

/-- `or` and then a row. -/
theorem runAll_or_add (goesOn : Bool) {cs : List (Condition α)}
    (h : ∀ c ∈ cs, s.filter.objection? c = none) :
    (runAll goesOn s (.or :: cs.map .add)).session.filter = s.filter.or.pushAll cs ∧
      (runAll goesOn s (.or :: cs.map .add)).refusal? = none :=
  runAll_cons_add goesOn rfl Filter.or_config h

/-- `and` and then a row. -/
theorem runAll_and_add (goesOn : Bool) {cs : List (Condition α)}
    (h : ∀ c ∈ cs, s.filter.objection? c = none) :
    (runAll goesOn s (.and :: cs.map .add)).session.filter = s.filter.and.pushAll cs ∧
      (runAll goesOn s (.and :: cs.map .add)).refusal? = none :=
  runAll_cons_add goesOn rfl rfl h

/-- **The joins, from any point of a program.** Where a program has led to
a chain without an open group, `or` and then some conditions that the
filter does not object to make it want the chain up to its last condition,
and that one or one of the conditions added. A following `and` drops them
all: with what is then added the filter wants the chain up to its last
condition and the new ones, holds no others, and is empty if there are
none. -/
theorem program_or_and (config : Config) (steps : List (Step α)) (last : Condition α)
    (rest more later : List (Condition α))
    (hclosed : (program config steps).session.filter.hasOpenGroup = false)
    (hheld : (program config steps).session.filter.conditions = rest ++ [last])
    (hmore : more ≠ [])
    (htaken : ∀ c ∈ more ++ later, (program config steps).session.filter.objection? c = none) :
    let opened := runAll false (program config steps).session (.or :: more.map .add)
    let closed := runAll false opened.session (.and :: later.map .add)
    (opened.refusal? = none ∧ ∀ r item, opened.session.filter.build.test r item =
        (rest.all (fun c => c.holds r item) && (last :: more).any fun c => c.holds r item)) ∧
      (closed.refusal? = none ∧ ∀ r item, closed.session.filter.build.test r item =
        (rest ++ later).all fun c => c.holds r item) ∧
      closed.session.filter.build.shape =
        (if (rest ++ later).isEmpty then .literal true else .logical) ∧
      closed.session.filter.hasOpenGroup = false ∧
      closed.session.filter.size = rest.length + later.length ∧
      closed.session.filter.next = .and := by
  have hf : (program config steps).session.filter.Normal :=
    Filter.normal_of_reachable (program_reachable config steps)
  generalize (program config steps).session = s at *
  intro opened closed
  have hg : s.filter.group = [] := by simpa [Filter.hasOpenGroup] using hclosed
  obtain ⟨hopened, hopenedNone⟩ :
      opened.session.filter = s.filter.or.pushAll more ∧ opened.refusal? = none :=
    runAll_or_add false fun c hc => htaken c (List.mem_append_left _ hc)
  have hconfig : opened.session.filter.config = s.filter.config := by
    rw [hopened, Filter.pushAll_config, Filter.or_config]
  obtain ⟨hclosed, hclosedNone⟩ :
      closed.session.filter = opened.session.filter.and.pushAll later ∧ closed.refusal? = none :=
    runAll_and_add false fun c hc =>
      (Filter.objection?_congr hconfig c).trans (htaken c (List.mem_append_right _ hc))
  rw [hopened] at hclosed
  -- all that is asked of the closed filter is read off what it holds
  have hleft : (s.filter.or.pushAll more).and.conditions = rest :=
    Filter.conditions_and_of_or hg hheld
  have hgroup : closed.session.filter.group = [] := by
    rw [hclosed]
    exact Filter.pushAll_group_of_nil rfl
  have hnow : closed.session.filter.conditions = rest ++ later := by
    rw [hclosed, Filter.conditions_pushAll, hleft]
  refine ⟨⟨hopenedNone, fun r item => ?_⟩, ⟨hclosedNone, fun r item => ?_⟩, ?_, ?_, ?_, ?_⟩
  · rw [hopened]
    exact hf.test_build_or hg hheld hmore r item
  · rw [hclosed, (hf.or.pushAll more).test_build_and, hleft]
  · rw [Filter.shape_build, Filter.isEmpty_eq_conditions, hnow]
  · simp [Filter.hasOpenGroup, hgroup]
  · rw [← Filter.length_conditions, hnow, List.length_append]
  · rw [hclosed]
    exact Filter.pushAll_next (Or.inl rfl)

/-- Three conditions held, then one alternative to the third, then `and`
and a fourth. -/
theorem program_or_and_three :
    let above (n : Nat) : Condition Nat := .ofTest fun item => decide (n < item)
    let steps : List (Step Nat) := [.add (above 1), .add (above 2), .add (above 9)]
    let s := (program .standard steps).session
    let opened := runAll false s [.or, .add (above 4)]
    let closed := runAll false opened.session [.and, .add (above 3)]
    (s.filter.hasOpenGroup = false ∧ s.filter.conditions = [above 1, above 2] ++ [above 9] ∧
        [above 4] ≠ [] ∧ ∀ c ∈ [above 4] ++ [above 3], s.filter.objection? c = none) ∧
      (∀ r item, opened.session.filter.build.test r item =
        ((decide (1 < item) && decide (2 < item)) && (decide (9 < item) || decide (4 < item)))) ∧
      closed.session.filter.size = 3 := by
  intro above steps s opened closed
  have htaken : ∀ c ∈ [above 4] ++ [above 3], s.filter.objection? c = none := fun c hc => by
    rcases List.mem_pair.mp hc with rfl | rfl <;> rfl
  obtain ⟨⟨-, hopened⟩, -, -, -, hsize, -⟩ :=
    program_or_and .standard steps (above 9) [above 1, above 2] [above 4] [above 3] rfl rfl
      (by simp) htaken
  refine ⟨⟨rfl, rfl, by simp, htaken⟩, fun r item => ?_, hsize⟩
  exact (hopened r item).trans (by simp [above, Condition.ofTest])

end Step

end Criteria
