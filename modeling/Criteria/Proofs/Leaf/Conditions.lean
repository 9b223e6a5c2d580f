import Criteria.Leaf.Basic
import Criteria.Proofs.Filter.Basic
/-!
# Leaves — the conditions they stand for

What a leaf adds is read off its arguments and the configuration, before
the filter is looked at. None of its conditions is degenerate: each is a
test, a comparison with the number that was read on the left, or two of
these combined. So a filter refuses a leaf for its arguments or not at all,
and takes the conditions of one with good arguments in a row.
-/

namespace Criteria

section Except

variable {ε α β : Type} {b : β}

/-- A computation that goes on succeeds only after its first part did. -/
theorem exists_ok_of_bind {x : Except ε α} {k : α → Except ε β} (h : x >>= k = .ok b) :
    ∃ a, x = .ok a ∧ k a = .ok b := by
  cases x with
  | error e => cases h
  | ok a => exact ⟨a, rfl, h⟩

/-- A result under a function comes from a result. -/
theorem exists_ok_of_map {x : Except ε α} {k : α → β} (h : x.map k = .ok b) :
    ∃ a, x = .ok a ∧ k a = b := by
  cases x with
  | error e => cases h
  | ok a => exact ⟨a, rfl, Except.ok.inj h⟩

end Except

/-- A comparison that reads its left operand is not degenerate, whatever
the literal on its right. -/
theorem discerning_of_compare {α : Type} {read : α → Number} {op : Operator} {right : Operand α}
    {c : Condition α} (h : Condition.compare (.read read) op right = .ok c) :
    c.degeneracy? = none := by
  rw [(Condition.compare_eq_ok_iff.mp h).2]
  rfl

/-- The condition of a test of numbers is not degenerate: the bounds stand
on the right. -/
theorem NumberTest.discerning_of_condition {t : NumberTest} {c : Condition Number}
    (h : t.condition = .ok c) : c.degeneracy? = none := by
  cases t with
  | between least greatest =>
      obtain ⟨-, -, h⟩ := exists_ok_of_bind h
      obtain ⟨low, -, h⟩ := exists_ok_of_bind h
      obtain ⟨high, -, h⟩ := exists_ok_of_bind h
      rw [← Except.ok.inj h]
      rfl
  | _ =>
      simp only [NumberTest.condition] at h
      exact discerning_of_compare h

namespace Leaf

variable {α : Type} {config : Config} {leaf : Leaf α} {cs : List (Condition α)}

/-- The condition of a clause on a field is a test. -/
theorem discerning_of_fieldCondition [Fields α] {name : String} {op : Operator}
    {comparand : Comparand} {c : Condition α} (h : fieldCondition name op comparand = .ok c) :
    c.degeneracy? = none := by
  obtain ⟨clause, -, rfl⟩ := exists_ok_of_map h
  exact Condition.degeneracy?_ofTest _

/-- **No condition of a leaf is degenerate.** -/
theorem discerning_of_mem_conditions (h : leaf.conditions config = .ok cs) :
    ∀ c ∈ cs, c.degeneracy? = none := by
  cases leaf with
  | test holds =>
      rw [← Except.ok.inj h]
      simp
  | text read check =>
      obtain ⟨c, hc, rfl⟩ := exists_ok_of_map h
      obtain ⟨t, -, rfl⟩ := exists_ok_of_map hc
      simp
  | anyTerm terms reads =>
      obtain ⟨-, -, h⟩ := exists_ok_of_bind h
      by_cases hreads : reads.isEmpty
      · simp [hreads, throw, throwThe, MonadExceptOf.throw, bind, Except.bind] at h
      · simp only [hreads, Bool.false_eq_true, if_false] at h
        rw [← Except.ok.inj h]
        simp
  | number read check =>
      obtain ⟨c, hc, rfl⟩ := exists_ok_of_map h
      have hd : c.degeneracy? = none := NumberTest.discerning_of_condition hc
      simpa using hd
  | moment read check =>
      obtain ⟨c, hc, rfl⟩ := exists_ok_of_map h
      obtain ⟨t, -, rfl⟩ := exists_ok_of_map hc
      simp
  | sizeBetween size least greatest =>
      obtain ⟨-, -, rfl⟩ := exists_ok_of_map h
      simp
  | field name op comparand =>
      obtain ⟨c, hc, rfl⟩ := exists_ok_of_map h
      simpa using discerning_of_fieldCondition hc
  | fieldPattern name pattern =>
      obtain ⟨-, -, h⟩ := exists_ok_of_bind h
      obtain ⟨c, hc, h⟩ := exists_ok_of_bind h
      rw [← Except.ok.inj h]
      simpa using discerning_of_fieldCondition hc

end Leaf

namespace Filter

variable {α : Type}

/-- **A leaf is refused with the filter as it was, or goes in whole.** No
refusal comes from the filter: the leaf of several texts adds all of its
conditions or none. -/
theorem addLeaf_cases (f : Filter α) (leaf : Leaf α) :
    (∃ e, leaf.conditions f.config = .error e ∧ f.addLeaf leaf = ⟨f, some e⟩) ∨
      ∃ cs, leaf.conditions f.config = .ok cs ∧ (∀ c ∈ cs, c.degeneracy? = none) ∧
        f.addLeaf leaf = ⟨f.pushAll cs, none⟩ := by
  cases h : leaf.conditions f.config with
  | error e => exact Or.inl ⟨e, rfl, by simp [addLeaf, h]⟩
  | ok cs =>
      have hcs : ∀ c ∈ cs, c.degeneracy? = none := Leaf.discerning_of_mem_conditions h
      exact Or.inr ⟨cs, rfl, hcs, by simp [addLeaf, h, addAll_of_discerning hcs f]⟩

end Filter

end Criteria
