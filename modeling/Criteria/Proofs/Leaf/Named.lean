import Criteria.Leaf.Item
import Criteria.Proofs.Clause.Checked
import Criteria.Proofs.Leaf.Conditions
import Criteria.Proofs.Leaf.Reading
/-!
# Leaves — by name

Where the field of a name holds what is read off an item, a leaf that tests
what is read may be written as a clause on the field. The two are decided by
different rules: a leaf by the test that it was made with, a clause by its
operator, from the kinds of the field's value and of the comparand. They say
the same of every item, and neither can be refused or is degenerate, though
their conditions have different shapes.
-/

namespace Criteria

/-- The field of a name is one that a clause can name, and holds what is
read off the item. -/
structure Fields.Names {α β : Type} [Fields α] (name : String) (read : α → β) (wrap : β → Value) :
    Prop where
  mem_names : name ∈ Fields.names α
  value_eq : ∀ item : α, Fields.value item name = wrap (read item)

/-! ## Tests as clauses -/

/-- A test of a number says what an operator says of it beside a comparand.
Zero may be written as any number that equals it. -/
inductive NumberTest.IsClause : NumberTest → Operator → Number → Prop
  | zero {n : Number} : n.compare? (.signed 0) = some .eq → IsClause .zero .eq n
  | nonzero {n : Number} : n.compare? (.signed 0) = some .eq → IsClause .nonzero .ne n
  | above (n : Number) : IsClause (.above n) .gt n
  | atLeast (n : Number) : IsClause (.atLeast n) .gte n
  | below (n : Number) : IsClause (.below n) .lt n
  | atMost (n : Number) : IsClause (.atMost n) .lte n

/-- A test of a moment does, under either word for the operator. -/
inductive MomentTest.IsClause : MomentTest → Operator → Moment → Prop
  | before (m : Moment) {op : Operator} (hop : op.normalize = .lt) : IsClause (.before m) op m
  | after (m : Moment) {op : Operator} (hop : op.normalize = .gt) : IsClause (.after m) op m

/-- A test of a text does; one that finds a text in it only where case is
not looked past. -/
inductive TextTest.IsClause (config : Config) : TextTest → Operator → String → Prop
  | startsWith (s : String) : IsClause config (.startsWith s) .startsWith s
  | endsWith (s : String) : IsClause config (.endsWith s) .endsWith s
  | contains (s : String) :
      config.ignoreCase = false → IsClause config (.contains s) .contains s

/-- The operator takes numbers, and says of each what the test does. -/
theorem NumberTest.IsClause.exists_condition {t : NumberTest} {op : Operator} {n : Number}
    (h : t.IsClause op n) : op.accepts .number = true ∧
      ∃ c : Condition Number, t.condition = .ok c ∧ c.degeneracy? = none ∧
        ∀ r m, c.holds r m = (m.compare? n).any op.decides := by
  cases h with
  | zero hn | nonzero hn =>
      -- the test has the signed zero on its right, the clause a number that equals it
      refine ⟨rfl, _, rfl, rfl, fun r m => ?_⟩
      rw [Number.compare?_congr_right hn]
      rfl
  | above | atLeast | below | atMost => exact ⟨rfl, _, rfl, rfl, fun _ _ => rfl⟩

theorem MomentTest.IsClause.check_eq {t : MomentTest} {op : Operator} {m : Moment}
    (h : t.IsClause op m) (clock : Clock) : op.accepts .moment = true ∧
      t.check clock = .ok fun _ x => op.decides (compare x m) := by
  cases h with
  | before m hop | after m hop =>
      simp [Operator.accepts, Operator.isOrdering, Operator.decides, MomentTest.check, hop]

theorem TextTest.IsClause.check_eq {config : Config} {t : TextTest} {op : Operator} {s : String}
    (h : t.IsClause config op s) : op ≠ .regex ∧ op.accepts .text = true ∧
      t.check config = .ok fun x => Clause.matchesText op x s := by
  cases h with
  | startsWith | endsWith => exact ⟨by decide, rfl, rfl⟩
  | contains _ hcase =>
      refine ⟨by decide, rfl, ?_⟩
      rw [TextTest.check, hcase]
      rfl

/-! ## Leaves as clauses -/

namespace Leaf

variable {α : Type} [Fields α] {config : Config}

/-- A clause on a field that is there, with a comparand that suits its
operator, is one condition. -/
theorem conditions_field (config : Config) {name : String} {op : Operator} {comparand : Comparand}
    (hname : name ∈ Fields.names α) (hsuited : comparand.suited op = .ok comparand) :
    (Leaf.field name op comparand : Leaf α).conditions config =
      .ok [Clause.condition ⟨name, op, comparand⟩] := by
  have hnames : (Fields.names α).contains name = true := by simpa using hname
  rw [conditions, fieldCondition, Clause.checked, if_pos hnames, hsuited]
  rfl

/-- **A leaf of one condition reads as a clause that decides alike.** The
clause is made, since the field is there and the comparand suits the
operator, and neither of the two conditions is degenerate. -/
theorem reads_field {β : Type} {name : String} {read : α → β} {wrap : β → Value} {op : Operator}
    {comparand : Comparand} {a : Leaf α} {c : Condition α} (hname : Fields.Names name read wrap)
    (hsuited : comparand.suited op = .ok comparand) (ha : a.conditions config = .ok [c])
    (hc : c.degeneracy? = none)
    (hholds : ∀ r item, c.holds r item = Clause.isMatch ⟨name, op, comparand⟩ (wrap (read item))) :
    a.Reads config id (.field name op comparand) := by
  have hfield := conditions_field config hname.mem_names hsuited
  refine .taken ha hfield (.cons ⟨hc, fun r item => ?_⟩ .nil)
  rw [hholds, ← hname.value_eq]
  rfl

/-- A leaf and a clause that says the same by the name of a field. -/
inductive Respelled (config : Config) : Leaf α → Leaf α → Prop
  | number {name : String} {read : α → Number} {check : NumberTest} {op : Operator} {n : Number} :
      Fields.Names name read .number → check.IsClause op n →
      Respelled config (.number read check) (.field name op (.number n))
  | moment {name : String} {read : α → Moment} {check : MomentTest} {op : Operator} {m : Moment} :
      Fields.Names name read .moment → check.IsClause op m →
      Respelled config (.moment read check) (.field name op (.moment m))
  | text {name : String} {read : α → String} {check : TextTest} {op : Operator} {s : String} :
      Fields.Names name read .text → check.IsClause config op s →
      Respelled config (.text read check) (.field name op (.text s))
  | equal {name : String} {read : α → String} (s : String) :
      Fields.Names name read .text →
      Respelled config (.equal read s) (.field name .eq (.text s))
  | unequal {name : String} {read : α → String} (s : String) :
      Fields.Names name read .text →
      Respelled config (.unequal read s) (.field name .ne (.text s))
  | isTrue {name : String} {read : α → Bool} :
      Fields.Names name read .flag →
      Respelled config (.isTrue read) (.field name .eq (.flag true))
  | isFalse {name : String} {read : α → Bool} :
      Fields.Names name read .flag →
      Respelled config (.isFalse read) (.field name .eq (.flag false))

/-- **Such a leaf reads as its clause.** -/
theorem Respelled.reads {a b : Leaf α} (h : a.Respelled config b) : a.Reads config id b := by
  cases h with
  | @number name read check op n hname hcheck =>
      obtain ⟨hop, c, hcondition, hc, hholds⟩ := hcheck.exists_condition
      have ha : (Leaf.number read check).conditions config = .ok [c.via read] := by
        rw [conditions, hcondition]
        rfl
      have hregex : op ≠ .regex := by rintro rfl; cases hop
      exact reads_field hname (Comparand.suited_of_accepts (by simp) hregex hop) ha hc
        fun r item => hholds r (read item)
  | @moment name read check op m hname hcheck =>
      obtain ⟨hop, hchecked⟩ := hcheck.check_eq config.clock
      have ha : (Leaf.moment read check).conditions config =
          .ok [(Condition.ofTimedTest fun _ x => op.decides (compare x m)).via read] := by
        rw [conditions, MomentTest.condition, hchecked]
        rfl
      have hregex : op ≠ .regex := by rintro rfl; cases hop
      exact reads_field hname (Comparand.suited_of_accepts (by simp) hregex hop) ha rfl
        fun _ _ => rfl
  | @text name read check op s hname hcheck =>
      obtain ⟨hregex, hop, hchecked⟩ := hcheck.check_eq
      have ha : (Leaf.text read check).conditions config =
          .ok [(Condition.ofTest fun x => Clause.matchesText op x s).via read] := by
        rw [conditions, TextTest.condition, hchecked]
        rfl
      exact reads_field hname (Comparand.suited_of_accepts (by simp) hregex hop) ha rfl
        fun _ _ => rfl
  | equal s hname | unequal s hname => exact reads_field hname rfl rfl rfl fun _ _ => rfl
  | @isTrue name read hname =>
      exact reads_field hname rfl rfl rfl fun _ item => (beq_true (read item)).symm
  | @isFalse name read hname =>
      exact reads_field hname rfl rfl rfl fun _ item => (beq_false (read item)).symm

end Leaf

end Criteria
