import Criteria.Proofs.Leaf.Accepted
import Criteria.Proofs.Leaf.Named
import Criteria.Proofs.Number.Relations
/-!
# Leaves — equality of numbers

That a number equals a literal can be asked in three ways: by the leaf of
equality, by a comparison under the operator, and by a clause on the field
of its name. The last two compare values and always agree. The first is the
equality of numbers, which differ where their kinds do, so of what the
others accept it accepts the numbers that are of the literal's kind.
-/

namespace Criteria

/-- The operator of equality wants numbers that order as equal. -/
theorem Operator.any_decides_eq_iff (o : Option Ordering) :
    o.any Operator.eq.decides = true ↔ o = some .eq := by
  cases o with
  | none => simp
  | some o => cases o <;> decide

/-- A condition that is added to an empty filter binds alone. -/
theorem Step.test_program_add {α : Type} (config : Config) {c : Condition α}
    (hc : c.degeneracy? = none) (r : Clock.Readings) (item : α) :
    (program config [.add c]).session.filter.build.test r item = c.holds r item := by
  have hadd : (program config [.add c]).session.filter = (Filter.ofConfig config).pushAll [c] :=
    congrArg Filter.Outcome.filter (Filter.add_of_discerning (Filter.ofConfig config) hc)
  rw [hadd, (Filter.normal_ofConfig config).test_build_pushAll rfl]
  exact Bool.and_true _

namespace Leaf

variable {α : Type} {read : α → Number}

/-- The leaf accepts what is of one kind with the literal and compares as
equal. -/
theorem accepts_equal_iff (config : Config) (read : α → Number) (n : Number) (r : Clock.Readings)
    (item : α) :
    accepts config [.equal read n] r item = true ↔
      (read item).compare? n = some .eq ∧ (read item).sameKind n = true := by
  have hequal : (Leaf.equal read n).conditions config =
      .ok [.ofTest fun item => read item == n] := rfl
  rw [accepts_of_ok hequal, ← Number.beq_iff]
  rfl

/-- The clause accepts what compares as equal. -/
theorem accepts_field_eq_iff [Fields α] (config : Config) {name : String}
    (hname : Fields.Names name read .number) (n : Number) (r : Clock.Readings) (item : α) :
    accepts config [.field name .eq (.number n)] r item = true ↔
      (read item).compare? n = some .eq := by
  have hfield : (Leaf.field name .eq (.number n) : Leaf α).conditions config =
      .ok [Clause.condition ⟨name, .eq, .number n⟩] := conditions_field config hname.mem_names rfl
  rw [accepts_of_ok hfield, ← Operator.any_decides_eq_iff]
  change Clause.isMatch _ (Fields.value item name) = true ↔ _
  rw [hname.value_eq]
  rfl

/-- **Equality asks for the kind, and the others for the value alone.** Two
numbers are equal where they compare as equal and are of one kind; so the
leaf of equality accepts the items whose number does, and is, while the
comparison under the operator and the clause on the field accept every item
whose number compares as equal. -/
theorem equality_by_kind [Fields α] (config : Config) {name : String}
    (hname : Fields.Names name read .number) (n : Number) :
    (∀ a b : Number, (a == b) = true ↔ a.compare? b = some .eq ∧ a.sameKind b = true) ∧
      ∃ c : Condition Number, Condition.compare (.read id) .eq (.literal n) = .ok c ∧
        ∀ r item,
          ((Step.program config [.addVia read c]).session.filter.build.test r item = true ↔
              (read item).compare? n = some .eq) ∧
            (accepts config [.field name .eq (.number n)] r item = true ↔
              (read item).compare? n = some .eq) ∧
            (accepts config [.equal read n] r item = true ↔
              (read item).compare? n = some .eq ∧ (read item).sameKind n = true) := by
  refine ⟨fun a b => Number.beq_iff, _, rfl, fun r item => ⟨?_, ?_, ?_⟩⟩
  · rw [Step.addVia, Step.test_program_add config rfl, ← Operator.any_decides_eq_iff]
    rfl
  · exact accepts_field_eq_iff config hname n r item
  · exact accepts_equal_iff config read n r item

/-- A signed one that the clause on an unsigned one accepts, and the leaf of
equality with it does not. -/
theorem equality_by_kind_one :
    let _ : Fields Number := ⟨["size"], fun item _ => .number item⟩
    let r : Clock.Readings := ⟨.epoch, .epoch⟩
    Fields.Names "size" (id : Number → Number) .number ∧
      accepts .standard [.field "size" .eq (.number (.unsigned 1))] r (Number.signed 1) = true ∧
      ¬ accepts .standard [.equal id (.unsigned 1)] r (Number.signed 1) = true := by
  intro _ r
  have hname : Fields.Names "size" (id : Number → Number) .number := ⟨by decide, fun _ => rfl⟩
  obtain ⟨-, c, -, haccepts⟩ := equality_by_kind .standard hname (.unsigned 1)
  obtain ⟨-, hfield, hequal⟩ := haccepts r (.signed 1)
  exact ⟨hname, hfield.mpr rfl, fun h => by cases (hequal.mp h).2⟩

/-- **Numbers that compare as equal need not be equal.** -/
theorem not_beq_of_compare?_eq :
    (Number.signed 1).compare? (.unsigned 1) = some .eq ∧
      ¬ (Number.signed 1 == .unsigned 1) = true := by
  decide

end Leaf

end Criteria
