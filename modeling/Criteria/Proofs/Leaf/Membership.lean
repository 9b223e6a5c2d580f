import Mathlib.Data.List.Basic
import Criteria.Leaf.Item
import Criteria.Proofs.Step.Alternatives
/-!
# Leaves — membership

To be among some values is to equal one of them, and not to be among them is
to differ from each. So the leaf of membership accepts what the leaves of
equality accept as alternatives, its opposite what the leaves of inequality
accept in a row, and the two are negations of each other. Membership is
looked up in a set, which forgets how often a value was given and in which
order.
-/

namespace Criteria

namespace Leaf

variable {α β : Type} [BEq β] {read : α → β} {values : List β}

theorem isSingle_equal (config : Config) (read : α → β) (value : β) :
    (equal read value).IsSingle config :=
  ⟨_, rfl⟩

/-- The leaf of a test accepts what the test holds of. -/
theorem accepts_test (config : Config) (holds : α → Bool) (r : Clock.Readings) (item : α) :
    accepts config [test holds] r item = holds item := by
  have htest : (test holds).conditions config = .ok [.ofTest holds] := rfl
  rw [accepts_of_ok htest]
  rfl

/-- A row of leaves accepts what each of them accepts. -/
theorem accepts_map {γ : Type} (config : Config) (leafOf : γ → Leaf α) (xs : List γ)
    (r : Clock.Readings) (item : α) :
    accepts config (xs.map leafOf) r item = xs.all fun x => accepts config [leafOf x] r item := by
  simp only [accepts_eq, List.all_map, Function.comp_def, List.all_cons, List.all_nil, Bool.and_true]

/-! ## One value after the other -/

/-- **As alternatives, equalities accept the members.** -/
theorem test_alternatives_equal (config : Config) (again : Bool) (read : α → β)
    (hvalues : values ≠ []) (r : Clock.Readings) (item : α) :
    (Step.program config
        (Step.alternatives again (values.map (equal read)))).session.filter.build.test r item =
      values.contains (read item) := by
  have hleaves : values.map (equal read) ≠ [] := by simpa using hvalues
  have hone : ∀ leaf ∈ values.map (equal read), leaf.IsSingle config := fun leaf hleaf => by
    obtain ⟨value, -, rfl⟩ := List.mem_map.mp hleaf
    exact isSingle_equal config read value
  rw [Step.test_alternatives config again hleaves hone, List.any_map, List.contains_eq_any_beq]
  simp only [Function.comp_def, equal, accepts_test]

/-- **In a row, inequalities accept the others.** -/
theorem accepts_unequals (config : Config) (read : α → β) (values : List β) (r : Clock.Readings)
    (item : α) :
    accepts config (values.map (unequal read)) r item = !values.contains (read item) := by
  rw [accepts_map, List.contains_eq_any_beq, List.not_any_eq_all_not]
  simp only [unequal, accepts_test, bne]

/-! ## Any order, any number of times -/

/-- Values each of which equals one of the others have the same members. -/
theorem contains_congr [EquivBEq β] {others : List β}
    (hothers : ∀ v ∈ others, values.contains v = true)
    (hvalues : ∀ v ∈ values, others.contains v = true) (x : β) :
    others.contains x = values.contains x := by
  have hsub {xs ys : List β} (h : ∀ v ∈ xs, ys.contains v = true) (hx : xs.contains x = true) :
      ys.contains x = true := by
    obtain ⟨v, hv, hxv⟩ := List.contains_iff_exists_mem_beq.mp hx
    obtain ⟨w, hw, hvw⟩ := List.contains_iff_exists_mem_beq.mp (h v hv)
    exact List.contains_iff_exists_mem_beq.mpr ⟨w, hw, BEq.trans hxv hvw⟩
  exact Bool.eq_iff_iff.mpr ⟨hsub hothers, hsub hvalues⟩

/-- **Membership is equality with one of the values.** The leaf looks up what
is read in the set of the values, and so do the equalities with each of them
as alternatives. Its opposite is the rest, and so are the inequalities with
each of them in a row, and the negation of its filter. Neither leaf depends on
the order of the values or on how often one of them is given. -/
theorem membership_exact [Hashable β] [EquivBEq β] [LawfulHashable β] (config : Config)
    (read : α → β) {values : List β} (hvalues : values ≠ []) :
    (∀ r item,
      let found := (Std.HashSet.ofList values).contains (read item)
      accepts config [member read values] r item = found ∧
        (∀ again, (Step.program config
          (Step.alternatives again (values.map (equal read)))).session.filter.build.test r item =
            found) ∧
        accepts config [nonmember read values] r item = !found ∧
        accepts config (values.map (unequal read)) r item = !found ∧
        (Step.program config [.addLeaf (member read values)]).session.filter.buildNegated.test
          r item = !found) ∧
      ∀ others : List β, (∀ v ∈ others, values.contains v = true) →
        (∀ v ∈ values, others.contains v = true) →
          member read others = member read values ∧
            nonmember read others = nonmember read values := by
  refine ⟨fun r item => ?_, fun others hothers hback => ?_⟩
  · rw [Std.HashSet.contains_ofList]
    refine ⟨accepts_test config _ r item,
      fun again => test_alternatives_equal config again read hvalues r item,
      accepts_test config _ r item, accepts_unequals config read values r item, ?_⟩
    rw [Filter.test_buildNegated]
    exact congrArg (!·) (accepts_test config _ r item)
  · have hsame (item : α) : others.contains (read item) = values.contains (read item) :=
      contains_congr hothers hback (read item)
    exact ⟨by simp only [member, hsame], by simp only [nonmember, hsame]⟩

/-- Three states of which one is given twice, and the two without the
repetition. -/
theorem membership_exact_three :
    let values := ["open", "paid", "open"]
    let r : Clock.Readings := ⟨.epoch, .epoch⟩
    values ≠ [] ∧ accepts .standard [member id values] r "paid" = true ∧
      (Step.program .standard
        (Step.alternatives false (values.map (equal id)))).session.filter.build.test r "paid" =
          true ∧
      accepts .standard (values.map (unequal id)) r "paid" = false ∧
      member id ["paid", "open"] = member (id : String → String) values := by
  intro values r
  have hvalues : values ≠ [] := List.cons_ne_nil _ _
  have hfound : (Std.HashSet.ofList values).contains "paid" = true := by
    rw [Std.HashSet.contains_ofList]
    decide
  obtain ⟨hlookup, hothers⟩ := membership_exact .standard id hvalues
  obtain ⟨hmember, hequal, -, hunequal, -⟩ := hlookup r "paid"
  refine ⟨hvalues, hmember.trans hfound, (hequal false).trans hfound, ?_,
    (hothers ["paid", "open"] (by decide) (by decide)).1⟩
  rw [hunequal, id, hfound, Bool.not_true]

end Leaf

end Criteria
