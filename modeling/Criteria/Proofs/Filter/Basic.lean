import Criteria.Filter
import Mathlib.Data.List.Basic
/-!
# Filters — what each call does

One equation a call, with the case it applies in: `push` looks at the group
alone, `or` at the chain alone. A filter takes every condition that is not
degenerate, whatever its configuration, and what it compiles to is
degenerate only where it holds nothing. Later files read calls off these
equations and do not open the definitions again.
-/

namespace Criteria

namespace Join

/-- Two truth values, joined. -/
def decide : Join → Bool → Bool → Bool
  | and => (· && ·)
  | or => (· || ·)

/-- Joined tests decide as their joined values do. -/
@[simp] theorem combine_apply {α : Type} (j : Join) (s t : Clock.Readings → α → Bool)
    (r : Clock.Readings) (item : α) :
    j.combine s t r item = j.decide (s r item) (t r item) := by
  cases j <;> rfl

end Join

/-! ## Conditions

A test is never degenerate, what is read off an item is degenerate as the
condition that reads it, and a comparison as its left operand. -/

namespace Condition

variable {α β : Type}

@[simp] theorem degeneracy?_ofTest (test : α → Bool) : (ofTest test).degeneracy? = none := rfl

@[simp] theorem degeneracy?_ofTimedTest (test : Clock.Readings → α → Bool) :
    (ofTimedTest test).degeneracy? = none := rfl

@[simp] theorem degeneracy?_via (read : α → β) (c : Condition β) :
    (c.via read).degeneracy? = c.degeneracy? := rfl

/-- A comparison that is made has an operator that numbers take, its left
operand for a shape, and the ordering of the two for a test. -/
theorem compare_eq_ok_iff {left right : Operand α} {op : Operator} {c : Condition α} :
    Condition.compare left op right = .ok c ↔ op.accepts .number = true ∧
      c = ⟨.comparison left.literal?,
        fun _ item => ((left.value item).compare? (right.value item)).any op.decides⟩ := by
  by_cases hop : op.accepts .number = true
  · rw [Condition.compare, if_pos hop]
    exact ⟨fun h => ⟨hop, (Except.ok.inj h).symm⟩, fun h => congrArg Except.ok h.2.symm⟩
  · rw [Condition.compare, if_neg hop]
    exact ⟨fun h => (nomatch h), fun h => absurd h.1 hop⟩

end Condition

namespace Filter

variable {α : Type} {f : Filter α} {c : Condition α}

@[simp] theorem ofConfig_records (config : Config) : (ofConfig config : Filter α).records = [] :=
  rfl

/-! ## Adding -/

/-- Without a group a condition ends the chain, with the join in hand. -/
theorem push_of_group_nil (h : f.group = []) :
    f.push c = { f with records := f.records ++ [(c, f.next)], next := .and } := by
  simp [push, h]

/-- Into an open group it goes as one more alternative. -/
theorem push_of_group_ne_nil (h : f.group ≠ []) :
    f.push c = { f with group := f.group ++ [c], next := .and } := by
  simp [push, h]

@[simp] theorem push_config : (f.push c).config = f.config := by
  unfold push; split <;> rfl

@[simp] theorem push_next (c : Condition α) : (f.push c).next = .and := by
  unfold push; split <;> rfl

/-- A filter that took a condition holds something. -/
theorem isEmpty_push : (f.push c).isEmpty = false := by
  by_cases h : f.group = []
  · simp [push_of_group_nil h, isEmpty]
  · simp [push_of_group_ne_nil h, isEmpty]

/-- **A call that adds a condition is refused or pushes it.** The refusal
leaves the filter alone. -/
theorem add_cases (f : Filter α) (c : Condition α) :
    (∃ d, f.objection? c = some d ∧ f.add c = ⟨f, some (.degenerate d)⟩) ∨
      f.objection? c = none ∧ f.add c = ⟨f.push c, none⟩ := by
  rcases h : f.objection? c with - | d
  · exact Or.inr ⟨rfl, by simp [add, h]⟩
  · exact Or.inl ⟨d, rfl, by simp [add, h]⟩

/-- No configuration objects to a condition that is not degenerate. -/
theorem objection?_of_discerning (f : Filter α) (h : c.degeneracy? = none) :
    f.objection? c = none := by
  simp [objection?, h]

/-- What the filter does not object to it takes. -/
theorem add_of_objection?_none (h : f.objection? c = none) : f.add c = ⟨f.push c, none⟩ := by
  simp [add, h]

/-- So every filter takes what is not degenerate. -/
theorem add_of_discerning (f : Filter α) (h : c.degeneracy? = none) :
    f.add c = ⟨f.push c, none⟩ :=
  add_of_objection?_none (objection?_of_discerning f h)

/-- The filter with some more conditions, pushed one after the other. -/
def pushAll (f : Filter α) (cs : List (Condition α)) : Filter α := cs.foldl push f

@[simp] theorem pushAll_nil : f.pushAll [] = f := rfl

@[simp] theorem pushAll_cons {cs : List (Condition α)} :
    f.pushAll (c :: cs) = (f.push c).pushAll cs := rfl

@[simp] theorem pushAll_config (cs : List (Condition α)) : (f.pushAll cs).config = f.config := by
  induction cs generalizing f with
  | nil => rfl
  | cons c cs ih => rw [pushAll_cons, ih, push_config]

/-- What a filter objects to is up to its configuration. -/
theorem objection?_congr {g : Filter α} (h : f.config = g.config) (c : Condition α) :
    f.objection? c = g.objection? c := by
  simp [objection?, h]

/-- **A row of conditions that the filter does not object to goes in
whole**: no call of the row is refused, so none leaves the row half
added. -/
theorem addAll_of_objection?_none {cs : List (Condition α)} (f : Filter α)
    (h : ∀ c ∈ cs, f.objection? c = none) : f.addAll cs = ⟨f.pushAll cs, none⟩ := by
  induction cs generalizing f with
  | nil => rfl
  | cons c cs ih =>
      have hc : f.objection? c = none := h c (by simp)
      have hcs : ∀ d ∈ cs, (f.push c).objection? d = none := fun d hd => by
        rw [objection?_congr push_config d]
        exact h d (by simp [hd])
      rw [addAll, add_of_objection?_none hc]
      exact ih (f.push c) hcs

/-- To a row none of which is degenerate no filter objects. -/
theorem addAll_of_discerning {cs : List (Condition α)} (h : ∀ c ∈ cs, c.degeneracy? = none)
    (f : Filter α) : f.addAll cs = ⟨f.pushAll cs, none⟩ :=
  addAll_of_objection?_none f fun c hc => objection?_of_discerning f (h c hc)

/-! ## Turning the join -/

/-- On an empty chain `or` turns the join and no more. -/
theorem or_of_records_nil (h : f.records = []) : f.or = { f with next := .or } := by
  simp [Filter.or, h]

/-- From a chain `or` takes the last condition, and the group it opens with
it replaces the group that was open. -/
theorem or_of_records_append {records : List (Condition α × Join)} {j : Join}
    (h : f.records = records ++ [(c, j)]) :
    f.or = { f with next := .or, records := records, group := [c] } := by
  simp [Filter.or, h]

/-- A chain is empty or ends in a condition: the two cases of `or`. -/
theorem records_cases (f : Filter α) :
    f.records = [] ∨ ∃ records c j, f.records = records ++ [(c, j)] := by
  rcases List.eq_nil_or_concat' f.records with h | ⟨records, ⟨c, j⟩, h⟩
  · exact Or.inl h
  · exact Or.inr ⟨records, c, j, h⟩

@[simp] theorem or_config : f.or.config = f.config := by
  rcases f.records_cases with h | ⟨records, c, j, h⟩
  · rw [or_of_records_nil h]
  · rw [or_of_records_append h]

/-! ## Compiling -/

/-- A filter compiles to the literal `true` where it holds nothing, and to
a combination otherwise. -/
theorem shape_build (f : Filter α) :
    f.build.shape = if f.isEmpty then .literal true else .logical := by
  obtain ⟨records, group, next, config⟩ := f
  cases records <;> cases group <;> rfl

/-- So what it compiles to is degenerate exactly where it holds nothing. -/
theorem degeneracy?_build (f : Filter α) :
    f.build.toCondition.degeneracy? = if f.isEmpty then some .alwaysTrue else none := by
  have hshape : f.build.toCondition.shape = if f.isEmpty then .literal true else .logical :=
    shape_build f
  rw [Condition.degeneracy?, hshape]
  cases f.isEmpty <;> rfl

/-- The predicate of a filter that holds something is not degenerate. -/
theorem discerning_build (h : f.isEmpty = false) : f.build.toCondition.degeneracy? = none := by
  rw [degeneracy?_build, h]
  rfl

/-- Neither is a negation. -/
theorem discerning_buildNegated (f : Filter α) :
    f.buildNegated.toCondition.degeneracy? = none := rfl

/-- What passes the negation is what does not pass. -/
@[simp] theorem test_buildNegated (f : Filter α) (r : Clock.Readings) (item : α) :
    f.buildNegated.test r item = !f.build.test r item := rfl

/-! ## Groups in parentheses -/

/-- **A group is refused with the filter as it was.** Whatever happened
inside, only the predicate it came to is added. -/
theorem close_cases (f : Filter α) (inner : Outcome α) :
    (∃ e, f.close inner = ⟨f, some e⟩) ∨
      inner.refusal? = none ∧ f.objection? inner.filter.build.toCondition = none ∧
        f.close inner = ⟨f.push inner.filter.build.toCondition, none⟩ := by
  rcases h : inner.refusal? with - | e
  · have hclose : f.close inner = f.add inner.filter.build.toCondition := by simp [close, h]
    rcases f.add_cases inner.filter.build.toCondition with ⟨d, -, hadd⟩ | ⟨hno, hadd⟩
    · exact Or.inl ⟨_, hclose.trans hadd⟩
    · exact Or.inr ⟨rfl, hno, hclose.trans hadd⟩
  · exact Or.inl ⟨e, by simp [close, h]⟩

end Filter

end Criteria
