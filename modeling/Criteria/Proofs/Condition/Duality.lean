import Criteria.Proofs.Filter.Basic
import Criteria.Proofs.Number.Relations
import Criteria.Proofs.Operator.Duality
/-!
# Conditions — comparisons turned round, and denied

A comparison of two numbers may be written from either side, under the
mirror image of its operator: two numbers order the other way round when
they are turned round, whatever their kinds. The opposite operator says the
contrary of two numbers that order. Of two that do not, one being no number,
no operator holds, so a comparison and its opposite then both fail, and the
negation of the one is not the other.
-/

namespace Criteria

/-- Both operands of a comparison are numbers beside an item. -/
def Operand.areNumbers {α : Type} (left right : Operand α) (item : α) : Bool :=
  !((left.value item).isNaN || (right.value item).isNaN)

namespace Condition

variable {α : Type} {left right : Operand α} {op : Operator} {c d : Condition α}

/-- Numbers order. -/
theorem exists_compare?_of_areNumbers {item : α} (h : left.areNumbers right item = true) :
    ∃ o, (left.value item).compare? (right.value item) = some o := by
  rw [← Option.ne_none_iff_exists', Ne, Number.compare?_eq_none_iff, Bool.not_eq_true]
  exact (Bool.not_eq_true' _).mp h

/-- What is none does not. -/
theorem compare?_of_not_areNumbers {item : α} (h : left.areNumbers right item = false) :
    (left.value item).compare? (right.value item) = none := by
  rw [Number.compare?_eq_none_iff]
  exact (Bool.not_eq_false' _).mp h

/-! ## When a comparison is made -/

/-- A comparison is made where numbers take its operator, whatever its
operands are. -/
theorem exists_compare_eq_ok_iff :
    (∃ c, Condition.compare left op right = .ok c) ↔ op.accepts .number = true := by
  refine ⟨fun ⟨c, hc⟩ => (compare_eq_ok_iff.mp hc).1, fun hop => ?_⟩
  exact ⟨_, compare_eq_ok_iff.mpr ⟨hop, rfl⟩⟩

/-- What it says of an item. -/
theorem holds_of_compare (hc : Condition.compare left op right = .ok c) (r : Clock.Readings)
    (item : α) :
    c.holds r item = ((left.value item).compare? (right.value item)).any op.decides := by
  rw [(compare_eq_ok_iff.mp hc).2]

/-- Of operands that do not order it does not hold. -/
theorem holds_of_not_areNumbers (hc : Condition.compare left op right = .ok c) {item : α}
    (h : left.areNumbers right item = false) (r : Clock.Readings) : c.holds r item = false := by
  rw [holds_of_compare hc, compare?_of_not_areNumbers h]
  rfl

/-! ## Turned round -/

/-- **A comparison turned round says the same of every item.** -/
theorem holds_mirror (hc : Condition.compare left op right = .ok c)
    (hd : Condition.compare right op.mirror left = .ok d) (r : Clock.Readings) (item : α) :
    d.holds r item = c.holds r item := by
  have hswap := Number.compare?_swap (left.value item) (right.value item)
  rw [holds_of_compare hc, holds_of_compare hd, hswap]
  cases (left.value item).compare? (right.value item) with
  | none => rfl
  | some o => exact op.decides_mirror o

/-! ## Denied -/

/-- **Of operands that order, the opposite says the contrary.** -/
theorem holds_opposite (hc : Condition.compare left op right = .ok c)
    (hd : Condition.compare left op.opposite right = .ok d) {item : α}
    (h : left.areNumbers right item = true) (r : Clock.Readings) :
    d.holds r item = !c.holds r item := by
  have hop : op.isOrdering = true :=
    Operator.isOrdering_of_accepts_number (compare_eq_ok_iff.mp hc).1
  obtain ⟨o, ho⟩ := exists_compare?_of_areNumbers h
  rw [holds_of_compare hc, holds_of_compare hd, ho]
  exact op.decides_opposite hop o

/-- **Comparisons come in mirror images and in opposites.** One is made for
the six operators that compare, and with it its mirror image, which holds of
the same items, and its opposite. Of a comparison and its opposite exactly
one holds where both operands are numbers, and neither where one is none; so
the negation of a comparison agrees with its opposite on the items of the
first sort and on no other. -/
theorem compare_mirror_opposite (left right : Operand α) (op : Operator) :
    ((∃ c, Condition.compare left op right = .ok c) ↔ op ∈ [.eq, .ne, .gt, .gte, .lt, .lte]) ∧
      ((∃ c, Condition.compare left op right = .ok c) ↔
        ∃ d, Condition.compare right op.mirror left = .ok d) ∧
      ∀ c, Condition.compare left op right = .ok c →
        (∃ d, Condition.compare right op.mirror left = .ok d ∧
          ∀ r item, d.holds r item = c.holds r item) ∧
        ∃ d, Condition.compare left op.opposite right = .ok d ∧ ∀ r item,
          (left.areNumbers right item = true → (c.holds r item ^^ d.holds r item) = true) ∧
            (left.areNumbers right item = false → c.holds r item = false ∧ d.holds r item = false) ∧
            (c.not.holds r item = d.holds r item ↔ left.areNumbers right item = true) := by
  refine ⟨exists_compare_eq_ok_iff.trans Operator.accepts_number_iff, ?_, fun c hc => ?_⟩
  · rw [exists_compare_eq_ok_iff, exists_compare_eq_ok_iff, Operator.accepts_mirror]
  have hop : op.accepts .number = true := (compare_eq_ok_iff.mp hc).1
  obtain ⟨image, himage⟩ : ∃ d, Condition.compare right op.mirror left = .ok d :=
    exists_compare_eq_ok_iff.mpr (by rw [Operator.accepts_mirror, hop])
  obtain ⟨d, hd⟩ : ∃ d, Condition.compare left op.opposite right = .ok d :=
    exists_compare_eq_ok_iff.mpr (Operator.accepts_opposite hop)
  refine ⟨⟨image, himage, holds_mirror hc himage⟩, d, hd, fun r item => ?_⟩
  have hnot : c.not.holds r item = !c.holds r item := rfl
  rw [hnot]
  cases h : left.areNumbers right item with
  | true => simp [holds_opposite hc hd h r]
  | false => simp [holds_of_not_areNumbers hc h r, holds_of_not_areNumbers hd h r]

/-- A number of the item below a signed three, and not below it: two and a half
is one of the two, and what is no number is neither. -/
theorem compare_mirror_opposite_half :
    let left : Operand Number := .read id
    let right : Operand Number := .literal (.signed 3)
    let half := Number.float ⟨0x4004000000000000⟩
    let none := Number.float ⟨0x7FF8000000000000⟩
    ∃ c d, Condition.compare left .lt right = .ok c ∧ Condition.compare left .gte right = .ok d ∧
      (left.areNumbers right half = true ∧ left.areNumbers right none = false) ∧
      ∀ r, (c.holds r half ^^ d.holds r half) = true ∧
        c.holds r none = false ∧ d.holds r none = false := by
  intro left right half none
  obtain ⟨-, -, hmade⟩ := compare_mirror_opposite left right .lt
  obtain ⟨-, d, hd, hitem⟩ := hmade _ rfl
  have hhalf : left.areNumbers right half = true := by decide
  have hnone : left.areNumbers right none = false := by decide
  refine ⟨_, d, rfl, hd, ⟨hhalf, hnone⟩, fun r => ⟨(hitem r half).1 hhalf, ?_⟩⟩
  exact (hitem r none).2.1 hnone

end Condition

end Criteria
