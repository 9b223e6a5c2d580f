import Criteria.Proofs.Filter.Basic
/-!
# Conditions — degenerate and constant

Degeneracy is read off the shape, and whether a condition can tell two items
apart is a matter of its test. The two are tied by how conditions are put
together: `Assembled` lists the ways, and each of them keeps the shape of a
constant test, gives a new condition a shape that fits its test, or forgets
the shape. One degenerate shape need not be constant. A comparison with an
integer zero on the left is refused for that zero alone, whatever is read on
its right.
-/

namespace Criteria

namespace Condition

variable {α β : Type}

/-- The conditions that calls put together. A predicate comes in from any
filter, whatever it holds; a negated one is the negation of such. -/
inductive Assembled : {α : Type} → Condition α → Prop
  | test {α : Type} (holds : Clock.Readings → α → Bool) : Assembled (ofTimedTest holds)
  | literal {α : Type} (b : Bool) : Assembled (Condition.literal b : Condition α)
  | null {α : Type} : Assembled (Condition.null : Condition α)
  | compare {α : Type} {left right : Operand α} {op : Operator} {c : Condition α} :
      Condition.compare left op right = .ok c → Assembled c
  | via {α β : Type} (read : α → β) {c : Condition β} : Assembled c → Assembled (c.via read)
  | and {α : Type} {c d : Condition α} : Assembled c → Assembled d → Assembled (c.and d)
  | or {α : Type} {c d : Condition α} : Assembled c → Assembled d → Assembled (c.or d)
  | not {α : Type} {c : Condition α} : Assembled c → Assembled c.not
  | build {α : Type} (f : Filter α) : Assembled f.build.toCondition

/-- The condition says the same of all items, at all times. -/
def IsConstant (c : Condition α) : Prop := ∃ b, ∀ r item, c.holds r item = b

/-- The condition compares an integer zero, on the left, with a number that
it reads off the item. -/
def ComparesZero (c : Condition α) : Prop :=
  ∃ (zero : Number) (op : Operator) (read : α → Number), zero.isIntegerZero = true ∧
    Condition.compare (.literal zero) op (.read read) = .ok c

/-! ## Comparisons -/

/-- **A degenerate comparison has an integer zero on its left**, and is
constant where it has a literal on its right as well. -/
theorem of_degeneracy?_compare {left right : Operand α} {op : Operator} {c : Condition α}
    {d : Degeneracy} (h : Condition.compare left op right = .ok c)
    (hd : c.degeneracy? = some d) :
    c.IsConstant ∨ d = .zeroLeftOperand ∧ c.ComparesZero := by
  obtain ⟨-, hc⟩ := compare_eq_ok_iff.mp h
  cases left with
  | read f => rw [hc] at hd; cases hd
  -- the shape records a literal on the left and not the operand on the right
  | literal n =>
      have hshape : (Shape.comparison (some n)).degeneracy? = some d := by rw [hc] at hd; exact hd
      obtain ⟨hzero, hd⟩ : n.isIntegerZero = true ∧ Degeneracy.zeroLeftOperand = d := by
        simpa [Shape.degeneracy?] using hshape
      cases right with
      | literal m =>
          exact Or.inl ⟨(n.compare? m).any op.decides, fun r item => by rw [hc]; rfl⟩
      | read f => exact Or.inr ⟨hd.symm, n, op, f, hzero, h⟩

/-! ## Reading off an item -/

theorem IsConstant.via {c : Condition β} (h : c.IsConstant) (read : α → β) :
    (c.via read).IsConstant := by
  obtain ⟨b, hb⟩ := h
  exact ⟨b, fun r item => hb r (read item)⟩

/-- What reads an item before it compares zero with a number of it compares
zero with a number of the item. -/
theorem ComparesZero.via {c : Condition β} (h : c.ComparesZero) (read : α → β) :
    (c.via read).ComparesZero := by
  obtain ⟨zero, op, f, hzero, hcompare⟩ := h
  obtain ⟨hop, rfl⟩ := compare_eq_ok_iff.mp hcompare
  exact ⟨zero, op, fun item => f (read item), hzero, compare_eq_ok_iff.mpr ⟨hop, rfl⟩⟩

/-! ## Degenerate conditions -/

/-- An empty filter accepts everything. -/
theorem isConstant_build {f : Filter α} (h : f.isEmpty = true) :
    f.build.toCondition.IsConstant := by
  obtain ⟨records, group, next, config⟩ := f
  obtain ⟨rfl, rfl⟩ : records = [] ∧ group = [] := by simpa [Filter.isEmpty] using h
  exact ⟨true, fun _ _ => rfl⟩

/-- **A degenerate condition is constant, unless it compares an integer
zero with a number that it reads.** By induction on how the condition was
assembled: what is read off an item is degenerate as the condition that
reads it, and a combination is not degenerate at all. -/
theorem Assembled.isConstant_or_comparesZero {c : Condition α} {d : Degeneracy} (h : c.Assembled)
    (hd : c.degeneracy? = some d) :
    c.IsConstant ∨ d = .zeroLeftOperand ∧ c.ComparesZero := by
  induction h with
  | test holds => cases hd
  | literal b => exact Or.inl ⟨b, fun _ _ => rfl⟩
  | null => exact Or.inl ⟨false, fun _ _ => rfl⟩
  | compare h => exact of_degeneracy?_compare h hd
  | via read _ ih =>
      rcases ih hd with hconstant | ⟨rfl, hzero⟩
      · exact Or.inl (hconstant.via read)
      · exact Or.inr ⟨rfl, hzero.via read⟩
  -- the shape of a combination forgets what was combined
  | and | or | not => cases hd
  | build f =>
      rw [Filter.degeneracy?_build] at hd
      cases hf : f.isEmpty with
      | true => exact Or.inl (isConstant_build hf)
      | false => rw [hf] at hd; cases hd

/-- The predicate of an empty filter of numbers, read off an item. -/
theorem isConstant_build_via :
    let c : Condition UInt64 :=
      (Filter.ofConfig .standard : Filter Number).build.toCondition.via .unsigned
    c.Assembled ∧ c.degeneracy? = some .alwaysTrue ∧ c.IsConstant := by
  intro c
  have hc : c.Assembled := (Assembled.build _).via _
  have hd : c.degeneracy? = some .alwaysTrue := rfl
  exact ⟨hc, hd, (hc.isConstant_or_comparesZero hd).resolve_right fun h => by cases h.1⟩

/-- **Zero below a number of the item is degenerate and not constant**: it
holds of five and not of minus five. -/
theorem degenerate_not_isConstant :
    ∃ c : Condition Number, Condition.compare (.literal (.signed 0)) .lt (.read id) = .ok c ∧
      c.Assembled ∧ c.degeneracy? = some .zeroLeftOperand ∧
      (∀ r, c.holds r (.signed 5) = true ∧ c.holds r (.signed (-5)) = false) ∧
      ¬ c.IsConstant := by
  obtain ⟨c, hc⟩ : ∃ c : Condition Number,
      Condition.compare (.literal (.signed 0)) .lt (.read id) = .ok c := ⟨_, rfl⟩
  obtain ⟨-, rfl⟩ := compare_eq_ok_iff.mp hc
  refine ⟨_, hc, .compare hc, rfl, fun r => ⟨rfl, rfl⟩, ?_⟩
  rintro ⟨b, hb⟩
  have hfive : true = b := hb ⟨.epoch, .epoch⟩ (.signed 5)
  have hminus : false = b := hb ⟨.epoch, .epoch⟩ (.signed (-5))
  rw [← hfive] at hminus
  cases hminus

end Condition

end Criteria
