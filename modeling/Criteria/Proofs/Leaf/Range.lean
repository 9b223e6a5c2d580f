import Criteria.Leaf.Item
import Criteria.Proofs.Leaf.Accepted
import Criteria.Proofs.Number.Relations
/-!
# Leaves — ranges of numbers

A number may be wanted between two bounds that are given, above the one and
below the other, or between two more numbers of the same item. The first is
decided by one comparison with each bound after a guard has looked at the
two, the second by the same comparisons in two leaves, the third by the
order relations. All of them want the value between the values of the
bounds, both included, and no number that is none lies in any range.
-/

namespace Criteria

/-- A range holds where both of its bounds do, unless these are not in
order. -/
theorem NumberTest.condition_between (least greatest : Number) :
    (between least greatest).condition =
      if least.AtMost greatest then .ok ⟨.logical, fun _ n => n.ge least && n.le greatest⟩
      else .error (Number.disorder least greatest) := by
  rw [condition, Number.ensureOrdered_eq]
  split <;> rfl

namespace Leaf

variable {α : Type} {config : Config} {read low high : α → Number} {least greatest : Number}

/-- Both bounds as one condition of items. -/
def rangeCondition (read : α → Number) (least greatest : Number) : Condition α :=
  ⟨.logical, fun _ item => (read item).ge least && (read item).le greatest⟩

/-- It holds of the items whose value lies between the values of the
bounds. -/
theorem rangeCondition_holds_iff (r : Clock.Readings) (item : α) :
    (rangeCondition read least greatest).holds r item = true ↔
      least.AtMost (read item) ∧ (read item).AtMost greatest := by
  rw [rangeCondition, Bool.and_eq_true, Number.ge_iff, Number.le_iff]

/-- Bounds in order stand for it, whatever the configuration. -/
theorem conditions_between (config : Config) (read : α → Number) (h : least.AtMost greatest) :
    (number read (.between least greatest)).conditions config =
      .ok [rangeCondition read least greatest] := by
  rw [conditions, NumberTest.condition_between, if_pos h]
  rfl

theorem conditions_between_of_not (config : Config) (read : α → Number)
    (h : ¬ least.AtMost greatest) :
    (number read (.between least greatest)).conditions config =
      .error (Number.disorder least greatest) := by
  rw [conditions, NumberTest.condition_between, if_neg h]
  rfl

/-- Two leaves, one a bound, accept what lies within both. -/
theorem accepts_atLeast_atMost (config : Config) (read : α → Number) (least greatest : Number)
    (r : Clock.Readings) (item : α) :
    accepts config [number read (.atLeast least), number read (.atMost greatest)] r item = true ↔
      least.AtMost (read item) ∧ (read item).AtMost greatest := by
  have hleast : (number read (.atLeast least)).conditions config =
      .ok [⟨.comparison none, fun _ item => (read item).ge least⟩] := rfl
  have hgreatest : (number read (.atMost greatest)).conditions config =
      .ok [⟨.comparison none, fun _ item => (read item).le greatest⟩] := rfl
  simp [accepts_eq, brings_of_ok hleast, brings_of_ok hgreatest, Number.ge_iff, Number.le_iff]

/-- And so does the leaf of bounds that the item has itself. -/
theorem accepts_numberWithin (config : Config) (read low high : α → Number) (r : Clock.Readings)
    (item : α) :
    accepts config [numberWithin read low high] r item = true ↔
      (low item).AtMost (read item) ∧ (read item).AtMost (high item) := by
  have hconditions : (numberWithin read low high).conditions config =
      .ok [.ofTest fun item => (read item).ge (low item) && (read item).le (high item)] := rfl
  rw [accepts_of_ok hconditions, ← Number.ge_iff, ← Number.le_iff, ← Bool.and_eq_true]
  rfl

/-- Where its bounds are out of order, or there is no number to lie between
them, it accepts no item. -/
theorem accepts_numberWithin_eq_false (config : Config) {item : α}
    (h : ¬ (low item).AtMost (high item) ∨ (read item).isNaN = true) (r : Clock.Readings) :
    accepts config [numberWithin read low high] r item = false := by
  rw [← Bool.not_eq_true, accepts_numberWithin]
  rintro ⟨hlow, hhigh⟩
  rcases h with hout | hnan
  · exact hout (hlow.trans hhigh)
  · rw [hhigh.isNaN_eq_false.1] at hnan
    cases hnan

/-- **A range is exact in all its forms.** Every filter takes the leaf of a
range, as one condition, where both bounds are numbers and their values are
in order, and else refuses it for its lower bound and stays as it was. The
leaf then accepts the numbers whose value lies between the values of the
bounds; and so do a leaf of the lower and a leaf of the upper bound, and the
leaf of bounds that an item has itself, which accepts no item whose bounds
are out of order or that has no number where one is wanted. -/
theorem range_exact (config : Config) (read : α → Number) (least greatest : Number) :
    let range : Leaf α := number read (.between least greatest)
    let lies (item : α) : Prop := least.AtMost (read item) ∧ (read item).AtMost greatest
    (∀ f : Filter α,
        (least.AtMost greatest → ∃ c : Condition α,
          f.addLeaf range = ⟨f.push c, none⟩ ∧ ∀ r item, c.holds r item = true ↔ lies item) ∧
        (¬ least.AtMost greatest → f.addLeaf range = ⟨f, some (Number.disorder least greatest)⟩)) ∧
      (least.AtMost greatest → ∀ r item, accepts config [range] r item = true ↔ lies item) ∧
      (∀ r item, accepts config [number read (.atLeast least), number read (.atMost greatest)]
          r item = true ↔ lies item) ∧
      ∀ low high : α → Number, ∀ r item,
        (low item = least → high item = greatest →
          (accepts config [numberWithin read low high] r item = true ↔ lies item)) ∧
        (¬ (low item).AtMost (high item) ∨ (read item).isNaN = true →
          accepts config [numberWithin read low high] r item = false) := by
  intro range lies
  refine ⟨fun f => ⟨fun h => ?_, fun h => ?_⟩, fun h r item => ?_, ?_,
    fun low high r item => ⟨?_, ?_⟩⟩
  · exact ⟨rangeCondition read least greatest,
      Filter.addLeaf_of_ok (conditions_between f.config read h), rangeCondition_holds_iff⟩
  · exact Filter.addLeaf_of_error (conditions_between_of_not f.config read h)
  · rw [accepts_of_ok (conditions_between config read h), rangeCondition_holds_iff]
  · exact accepts_atLeast_atMost config read least greatest
  · rintro rfl rfl
    exact accepts_numberWithin config read low high r item
  · intro hout
    exact accepts_numberWithin_eq_false config hout r

/-- From a signed minus one to an unsigned nine: two and a half, and then no
number. -/
theorem range_exact_mixed :
    let least := Number.signed (-1)
    let greatest := Number.unsigned 9
    let half := Number.float ⟨0x4004000000000000⟩
    let none := Number.float ⟨0x7FF8000000000000⟩
    let r : Clock.Readings := ⟨.epoch, .epoch⟩
    least.AtMost greatest ∧
      accepts .standard [.number id (.between least greatest)] r half = true ∧
      ¬ accepts .standard [.number id (.between least greatest)] r none = true := by
  intro least greatest half none r
  have hbounds : least.AtMost greatest := by decide
  obtain ⟨-, hrange, -⟩ := range_exact .standard id least greatest
  refine ⟨hbounds, (hrange hbounds r half).mpr (by decide), fun h => ?_⟩
  exact absurd ((hrange hbounds r none).mp h) (by decide)

end Leaf

end Criteria
