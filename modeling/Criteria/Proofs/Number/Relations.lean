import Criteria.Guard
import Criteria.Proofs.Number.Order
/-!
# Numbers — what their relations say of the values

The order relations are those of the values, and false where a number has
none; so bounds order as a guard wants them where the values do. Equality
asks for more than equal values: two numbers of different kinds are not
equal, whatever they stand for.
-/

namespace Criteria

namespace Number

variable {a b c : Number}

/-! ## Order -/

/-- Both numbers have a value, and the first value is at most the second. -/
def AtMost (a b : Number) : Prop := ∃ v w, a.value? = some v ∧ b.value? = some w ∧ v ≤ w

/-- The comparison decides it. -/
theorem le_iff : a.le b = true ↔ a.AtMost b := by
  rw [le, compare?_eq_cmp, AtMost]
  cases a.value? with
  | none => simp
  | some v =>
    cases b.value? with
    | none => simp
    | some w => simp [← not_lt, cmp_eq_gt_iff]

/-- From either side. -/
theorem ge_iff : b.ge a = true ↔ a.AtMost b := by
  rw [ge, compare?_eq_cmp, AtMost]
  cases a.value? with
  | none => simp
  | some v =>
    cases b.value? with
    | none => simp
    | some w => simp [← not_lt, cmp_eq_lt_iff]

instance : Decidable (a.AtMost b) := decidable_of_iff _ le_iff

theorem AtMost.trans (hab : a.AtMost b) (hbc : b.AtMost c) : a.AtMost c := by
  obtain ⟨u, v, hu, hv, huv⟩ := hab
  obtain ⟨v', w, hv', hw, hvw⟩ := hbc
  obtain rfl : v = v' := Option.some.inj (hv.symm.trans hv')
  exact ⟨u, w, hu, hw, huv.trans hvw⟩

/-- A number that is none is at most nothing, and nothing at most it. -/
theorem AtMost.isNaN_eq_false (h : a.AtMost b) : a.isNaN = false ∧ b.isNaN = false := by
  obtain ⟨v, w, hv, hw, -⟩ := h
  constructor
  · rw [← Bool.not_eq_true, ← value?_eq_none_iff, hv]
    simp
  · rw [← Bool.not_eq_true, ← value?_eq_none_iff, hw]
    simp

/-- Numbers do not order only where one of them is none. -/
theorem compare?_eq_none_iff : a.compare? b = none ↔ (a.isNaN || b.isNaN) = true := by
  rw [compare?_eq_cmp, Option.map₂_eq_none_iff, value?_eq_none_iff, value?_eq_none_iff,
    Bool.or_eq_true]

/-- Seen from the other side two numbers order the other way round. -/
theorem compare?_swap (a b : Number) : b.compare? a = (a.compare? b).map Ordering.swap := by
  rw [compare?_eq_cmp, compare?_eq_cmp]
  cases a.value? with
  | none => simp
  | some v =>
    cases b.value? with
    | none => simp
    | some w => exact congrArg some (cmp_swap v w).symm

/-- What is wrong with bounds that are not in order: one of them is no
number, or the first is the greater. -/
def disorder (a b : Number) : Error :=
  .invalidArgument "min" (
    if a.isNaN || b.isNaN then a.text ++ " and " ++ b.text ++ " cannot be ordered"
    else a.text ++ " is greater than max " ++ b.text)

/-- **Bounds are in order where the values are.** -/
theorem ensureOrdered_eq (a b : Number) :
    Guard.ensureOrdered a b = if a.AtMost b then .ok () else .error (disorder a b) := by
  have hcompare : Bound.compare? a b = a.compare? b := rfl
  have hle : (a.compare? b).any (· != .gt) = true ↔ a.AtMost b := le_iff
  have hnone := compare?_eq_none_iff (a := a) (b := b)
  rw [Guard.ensureOrdered, hcompare]
  cases h : a.compare? b with
  | none =>
    have hatMost : ¬ a.AtMost b := by rw [← hle, h]; simp
    rw [if_neg hatMost, disorder, if_pos (hnone.mp h)]
    rfl
  | some o =>
    have hnumbers : ¬ (a.isNaN || b.isNaN) = true := by rw [← hnone, h]; simp
    cases o with
    | lt | eq => rw [if_pos (hle.mp (by rw [h]; rfl))]
    | gt =>
      have hatMost : ¬ a.AtMost b := by rw [← hle, h]; simp
      rw [if_neg hatMost, disorder, if_neg hnumbers]
      rfl

/-! ## Equality -/

/-- Two numbers were given in one kind. -/
def sameKind : Number → Number → Bool
  | signed _, signed _ => true
  | unsigned _, unsigned _ => true
  | float _, float _ => true
  | _, _ => false

/-- **Equal numbers are those of one kind that compare as equal.** -/
theorem beq_iff : (a == b) = true ↔ a.compare? b = some .eq ∧ a.sameKind b = true := by
  change a.equals b = true ↔ _
  cases a with
  | signed m =>
    cases b with
    | signed n => simp [equals, compare?, sameKind, Int64.toInt_inj]
    | _ => simp [equals, sameKind]
  | unsigned m =>
    cases b with
    | unsigned n => simp [equals, compare?, sameKind, UInt64.toNat_inj]
    | _ => simp [equals, sameKind]
  | float x =>
    cases b with
    | float y => simp [equals, compare?, sameKind, Binary64.equals]
    | _ => simp [equals, sameKind]

end Number

end Criteria
