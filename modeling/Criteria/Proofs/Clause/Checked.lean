import Criteria.Clause
import Criteria.Proofs.Number.Relations
import Criteria.Proofs.Operator.Duality
/-!
# Clauses — which are made, and what they match

Whether a clause is made is read off its operator and the kind of its
comparand, in an order of cases; whether it matches is read off the comparand
and the field's value, in a table of its own. `Comparand.Suits` says the
first without an order: an operator takes a pattern, a text that is one, or
what its kinds allow. What the second table leaves to a clause that was made
is little: it matches values of its own kind alone, and on those its
operators part as the orderings do.
-/

namespace Criteria

/-- The field holds a number that is none. -/
def Value.isNaN : Value → Bool
  | number n => n.isNaN
  | _ => false

namespace Comparand

variable {op : Operator} {c d : Comparand}

/-- It is a number that is none. -/
def isNaN : Comparand → Bool
  | number n => n.isNaN
  | _ => false

/-! ## Comparands that suit -/

/-- What an operator keeps of a comparand that suits it. Under `regex` that is
a pattern, be it given as one or written in a text; another operator keeps a
comparand as it is, if it is no pattern and of a kind that the operator
applies to. -/
inductive Suits (op : Operator) : Comparand → Comparand → Prop
  | pattern (p : TextPattern) : op = .regex → Suits op (.pattern p) (.pattern p)
  | compiled {s : String} {p : TextPattern} :
      op = .regex → s ≠ "" → TextPattern.ofSource? s = some p → Suits op (.text s) (.pattern p)
  | plain {c : Comparand} :
      op ≠ .regex → (∀ p, c ≠ .pattern p) → op.accepts c.kind = true → Suits op c c

/-- A text that should be a pattern, is not empty, and is none. -/
def Malformed (op : Operator) (c : Comparand) : Prop :=
  op = .regex ∧ ∃ s, c = .text s ∧ s ≠ "" ∧ TextPattern.ofSource? s = none

/-- Outside of patterns the kind alone is asked for. -/
theorem suited_of_ne_regex (hop : op ≠ .regex) (hc : ∀ p, c ≠ .pattern p) :
    c.suited op = suited.accepted op c := by
  cases c with
  | pattern p => exact absurd rfl (hc p)
  | _ => exact if_neg hop

/-- A comparand that is no pattern suits an operator that takes its kind. -/
theorem suited_of_accepts (hc : ∀ p, c ≠ .pattern p) (hop : op ≠ .regex)
    (h : op.accepts c.kind = true) : c.suited op = .ok c := by
  rw [suited_of_ne_regex hop hc]
  exact if_pos h

theorem Suits.suited_eq (h : c.Suits op d) : c.suited op = .ok d := by
  cases h with
  | pattern p hop => exact if_pos hop
  | compiled hop hs hp => simp [suited, hop, hs, hp]
  | plain hop hc haccepts => exact suited_of_accepts hc hop haccepts

theorem Malformed.suited_eq (h : c.Malformed op) : c.suited op = .error .malformedPattern := by
  obtain ⟨hop, s, rfl, hs, hp⟩ := h
  simp [suited, hop, hs, hp]

/-- **A comparand suits its operator, is a malformed pattern, or is no
argument for it.** -/
theorem suited_cases (op : Operator) (c : Comparand) :
    (∃ d, c.Suits op d) ∨ c.Malformed op ∨
      ∃ name reason, c.suited op = .error (.invalidArgument name reason) := by
  by_cases hop : op = .regex
  · subst hop
    cases c with
    | text s =>
      by_cases hs : s = ""
      · subst hs
        exact Or.inr (Or.inr ⟨_, _, rfl⟩)
      cases hp : TextPattern.ofSource? s with
      | some p => exact Or.inl ⟨_, .compiled rfl hs hp⟩
      | none => exact Or.inr (Or.inl ⟨rfl, s, rfl, hs, hp⟩)
    | pattern p => exact Or.inl ⟨_, .pattern p rfl⟩
    | number | flag | moment => exact Or.inr (Or.inr ⟨_, _, rfl⟩)
  by_cases hpattern : ∃ p, c = .pattern p
  · obtain ⟨p, rfl⟩ := hpattern
    exact Or.inr (Or.inr ⟨_, _, if_neg hop⟩)
  have hc : ∀ p, c ≠ .pattern p := fun p hp => hpattern ⟨p, hp⟩
  by_cases haccepts : op.accepts c.kind = true
  · exact Or.inl ⟨c, .plain hop hc haccepts⟩
  · exact Or.inr (Or.inr ⟨_, _, (suited_of_ne_regex hop hc).trans (if_neg haccepts)⟩)

theorem suited_eq_ok_iff : c.suited op = .ok d ↔ c.Suits op d := by
  refine ⟨fun h => ?_, Suits.suited_eq⟩
  rcases suited_cases op c with ⟨e, he⟩ | hmalformed | ⟨_, _, hinvalid⟩
  · obtain rfl : e = d := Except.ok.inj (he.suited_eq.symm.trans h)
    exact he
  · cases h.symm.trans hmalformed.suited_eq
  · cases h.symm.trans hinvalid

theorem suited_eq_malformed_iff : c.suited op = .error .malformedPattern ↔ c.Malformed op := by
  refine ⟨fun h => ?_, Malformed.suited_eq⟩
  rcases suited_cases op c with ⟨e, he⟩ | hmalformed | ⟨_, _, hinvalid⟩
  · cases h.symm.trans he.suited_eq
  · exact hmalformed
  · cases h.symm.trans hinvalid

theorem suited_eq_invalid_iff :
    (∃ name reason, c.suited op = .error (.invalidArgument name reason)) ↔
      (∀ d, ¬ c.Suits op d) ∧ ¬ c.Malformed op := by
  refine ⟨fun ⟨_, _, h⟩ => ⟨fun d hd => ?_, fun hmalformed => ?_⟩, fun ⟨hsuits, hmalformed⟩ => ?_⟩
  · cases h.symm.trans hd.suited_eq
  · cases h.symm.trans hmalformed.suited_eq
  · exact (suited_cases op c).resolve_left (fun ⟨d, hd⟩ => hsuits d hd) |>.resolve_left hmalformed

end Comparand

namespace Clause

variable {names : List String} {field : String} {op : Operator} {comparand : Comparand}

/-! ## Clauses that are made -/

/-- A field that is there leaves the comparand to be asked. -/
theorem checked_of_mem (h : field ∈ names) (op : Operator) (comparand : Comparand) :
    checked names field op comparand = (comparand.suited op).map fun c => ⟨field, op, c⟩ := by
  rw [checked, if_pos (by simpa using h)]

/-- One that is not is all that is said. -/
theorem checked_of_not_mem (h : field ∉ names) (op : Operator) (comparand : Comparand) :
    checked names field op comparand =
      .error (.missing ("no accessor for field `" ++ field ++ "`")) := by
  rw [checked, if_neg (by simpa using h)]

theorem checked_eq_ok_iff (h : field ∈ names) {c : Clause} :
    checked names field op comparand = .ok c ↔
      ∃ kept, comparand.Suits op kept ∧ c = ⟨field, op, kept⟩ := by
  rw [checked_of_mem h]
  refine ⟨fun hc => ?_, fun ⟨kept, hkept, hc⟩ => by rw [hkept.suited_eq, hc]; rfl⟩
  cases hsuited : comparand.suited op with
  | error e => rw [hsuited] at hc; cases hc
  | ok kept =>
    rw [hsuited] at hc
    exact ⟨kept, Comparand.suited_eq_ok_iff.mp hsuited, (Except.ok.inj hc).symm⟩

theorem checked_eq_error_iff (h : field ∈ names) {e : Error} :
    checked names field op comparand = .error e ↔ comparand.suited op = .error e := by
  rw [checked_of_mem h]
  cases comparand.suited op with
  | error e' =>
    rw [Except.map, Except.error.injEq, Except.error.injEq]
  | ok kept => simp [Except.map]

/-- No comparand is refused for a missing field. -/
theorem missing_iff :
    (∃ what, checked names field op comparand = .error (.missing what)) ↔ field ∉ names := by
  refine ⟨fun ⟨what, h⟩ hmem => ?_, fun h => ⟨_, checked_of_not_mem h op comparand⟩⟩
  rw [checked_eq_error_iff hmem] at h
  rcases Comparand.suited_cases op comparand with ⟨kept, hkept⟩ | hmalformed | ⟨_, _, hinvalid⟩
  · cases h.symm.trans hkept.suited_eq
  · cases h.symm.trans hmalformed.suited_eq
  · cases h.symm.trans hinvalid

/-! ## What they match -/

/-- **A clause matches values of its comparand's kind alone.** -/
theorem kind?_of_isMatch {c : Clause} {v : Value} (h : c.isMatch v = true) :
    v.kind? = some c.comparand.kind := by
  obtain ⟨field, op, comparand⟩ := c
  cases comparand <;> cases v <;> first | rfl | cases h

/-- How a field's value orders against a comparand of its kind: numbers and
moments do, unless a number is none. -/
def ordering? : Comparand → Value → Option Ordering
  | .number n, .number field => field.compare? n
  | .moment m, .moment field => some (compare field m)
  | _, _ => none

theorem exists_ordering? {v : Value} (hkind : v.kind? = some comparand.kind)
    (hv : v.isNaN = false) (hcomparand : comparand.isNaN = false)
    (horders : comparand.kind = .number ∨ comparand.kind = .moment) :
    ∃ o, ordering? comparand v = some o := by
  cases comparand with
  | number n =>
    cases v with
    | number m =>
      have hm : m.isNaN = false := hv
      have hn : n.isNaN = false := hcomparand
      rw [ordering?, ← Option.ne_none_iff_exists', Ne, Number.compare?_eq_none_iff, hm, hn]
      exact Bool.false_ne_true
    | _ => cases hkind
  | moment m =>
    cases v with
    | moment t => exact ⟨_, rfl⟩
    | _ => cases hkind
  | _ => simp [Comparand.kind] at horders

/-- Of values that order, a clause says what its operator says of the
ordering. -/
theorem isMatch_of_ordering? {v : Value} {o : Ordering} (h : ordering? comparand v = some o)
    (field : String) (op : Operator) : isMatch ⟨field, op, comparand⟩ v = op.decides o := by
  cases comparand with
  | number n =>
    cases v with
    | number m => exact congrArg (Option.any op.decides) h
    | _ => cases h
  | moment m =>
    cases v with
    | moment t => exact congrArg (Option.any op.decides) h
    | _ => cases h
  | _ => cases h

/-- **`ne` is the contrary of `eq`** on values of the comparand's kind. -/
theorem isMatch_ne {v : Value} (hkind : v.kind? = some comparand.kind) (hv : v.isNaN = false)
    (hcomparand : comparand.isNaN = false) (hc : ∀ p, comparand ≠ .pattern p) (field : String) :
    isMatch ⟨field, .ne, comparand⟩ v = !isMatch ⟨field, .eq, comparand⟩ v := by
  by_cases horders : comparand.kind = .number ∨ comparand.kind = .moment
  · obtain ⟨o, ho⟩ := exists_ordering? hkind hv hcomparand horders
    rw [isMatch_of_ordering? ho, isMatch_of_ordering? ho]
    exact Operator.eq.decides_opposite rfl o
  · -- texts and flags are compared for equality, and do not order
    cases comparand with
    | pattern p => exact absurd rfl (hc p)
    | number | moment => simp [Comparand.kind] at horders
    | text s | flag b => cases v <;> first | rfl | cases hkind

/-- What a clause says that was made, for an operator that keeps the comparand
as it is. -/
theorem checked_map_isMatch (h : field ∈ names) (hc : ∀ p, comparand ≠ .pattern p)
    (hop : op ≠ .regex) (haccepts : op.accepts comparand.kind = true) (v : Value) :
    (checked names field op comparand).map (isMatch · v) =
      .ok (isMatch ⟨field, op, comparand⟩ v) := by
  rw [checked_of_mem h, Comparand.suited_of_accepts hc hop haccepts]
  rfl

/-- Of values that order it says what the operator says of the ordering. -/
theorem checked_map_isMatch_of_ordering? (h : field ∈ names) {v : Value} {o : Ordering}
    (ho : ordering? comparand v = some o) (haccepts : op.accepts comparand.kind = true) :
    (checked names field op comparand).map (isMatch · v) = .ok (op.decides o) := by
  have hc : ∀ p, comparand ≠ .pattern p := by
    rintro p rfl
    cases ho
  have hop : op ≠ .regex := by
    rintro rfl
    -- of texts alone, which do not order
    cases comparand <;> first | cases ho | cases haccepts
  rw [checked_map_isMatch h hc hop haccepts, isMatch_of_ordering? ho]

/-- **Which clauses are made, and how they part the values of their kind.** A
field that is not there is refused as missing, whatever else is wrong. Over
one that is, a clause is made for a comparand that suits the operator, and
keeps what the operator keeps of it; a text that should be a pattern and is
none is refused as malformed, and every other comparand as an invalid
argument. A clause that was made matches values of its comparand's kind
alone. On such a value, with no number that is none on either side, exactly
one of `eq` and `ne` matches, and of numbers and moments exactly one of `lt`,
`eq` and `gt`; there `gte` is the contrary of `lt` and `lte` of `gt`, and for
moments `before` and `after` are `lt` and `gt`. -/
theorem checked_discipline (names : List String) (field : String) (op : Operator)
    (comparand : Comparand) :
    let made (op : Operator) : Except Error Clause := checked names field op comparand
    let answer (op : Operator) (v : Value) : Except Error Bool := (made op).map (isMatch · v)
    ((∃ what, made op = .error (.missing what)) ↔ field ∉ names) ∧
      (field ∈ names →
        (∀ c, made op = .ok c ↔ ∃ kept, comparand.Suits op kept ∧ c = ⟨field, op, kept⟩) ∧
        (made op = .error .malformedPattern ↔ comparand.Malformed op) ∧
        ((∃ name reason, made op = .error (.invalidArgument name reason)) ↔
          (∀ kept, ¬ comparand.Suits op kept) ∧ ¬ comparand.Malformed op)) ∧
      (∀ c v, made op = .ok c → c.isMatch v = true → v.kind? = some c.comparand.kind) ∧
      ∀ v : Value, v.kind? = some comparand.kind → v.isNaN = false → comparand.isNaN = false →
        field ∈ names → (∀ p, comparand ≠ .pattern p) →
          (∃ e : Bool, answer .eq v = .ok e ∧ answer .ne v = .ok !e) ∧
          (comparand.kind = .number ∨ comparand.kind = .moment →
            ∃ l e g : Bool, answer .lt v = .ok l ∧ answer .eq v = .ok e ∧ answer .gt v = .ok g ∧
              [l, e, g].count true = 1 ∧ answer .gte v = .ok !l ∧ answer .lte v = .ok !g ∧
              (comparand.kind = .moment → answer .before v = .ok l ∧ answer .after v = .ok g)) := by
  intro made answer
  refine ⟨missing_iff, fun hfield => ⟨fun c => checked_eq_ok_iff hfield, ?_, ?_⟩,
    fun c v _ => kind?_of_isMatch, fun v hkind hv hcomparand hfield hc => ⟨?_, ?_⟩⟩
  · exact (checked_eq_error_iff hfield).trans Comparand.suited_eq_malformed_iff
  · simp only [made, checked_eq_error_iff hfield]
    exact Comparand.suited_eq_invalid_iff
  · -- all kinds take these two
    have heq : Operator.eq.accepts comparand.kind = true := by cases comparand.kind <;> rfl
    have hne : Operator.ne.accepts comparand.kind = true := by cases comparand.kind <;> rfl
    refine ⟨_, checked_map_isMatch hfield hc (by decide) heq v, ?_⟩
    rw [← isMatch_ne hkind hv hcomparand hc]
    exact checked_map_isMatch hfield hc (by decide) hne v
  · intro horders
    obtain ⟨o, ho⟩ := exists_ordering? hkind hv hcomparand horders
    have haccepts : ∀ op ∈ [Operator.lt, .eq, .gt, .gte, .lte], op.accepts comparand.kind = true := by
      rcases horders with h | h <;> rw [h] <;> decide
    have hanswer (op : Operator) (h : op.accepts comparand.kind = true) :
        answer op v = .ok (op.decides o) :=
      checked_map_isMatch_of_ordering? hfield ho h
    refine ⟨_, _, _, hanswer .lt (haccepts _ (by simp)), hanswer .eq (haccepts _ (by simp)),
      hanswer .gt (haccepts _ (by simp)), Operator.count_decides o, ?_, ?_, fun hmoment => ⟨?_, ?_⟩⟩
    · rw [hanswer .gte (haccepts _ (by simp))]
      exact congrArg Except.ok (Operator.lt.decides_opposite rfl o)
    · rw [hanswer .lte (haccepts _ (by simp))]
      exact congrArg Except.ok (Operator.gt.decides_opposite rfl o)
    · exact hanswer .before (by rw [hmoment]; rfl)
    · exact hanswer .after (by rw [hmoment]; rfl)

/-- A size of one and a half beside an unsigned one is above it, and so neither
equal to it nor below. -/
theorem checked_discipline_above :
    let names := ["title", "size"]
    let one : Comparand := .number (.unsigned 1)
    let size : Value := .number (.float ⟨0x3FF8000000000000⟩)
    let answer (op : Operator) : Except Error Bool :=
      (checked names "size" op one).map (isMatch · size)
    ("size" ∈ names ∧ size.kind? = some one.kind ∧ size.isNaN = false ∧ one.isNaN = false) ∧
      answer .gt = .ok true ∧
      ∃ l e g : Bool, answer .lt = .ok l ∧ answer .eq = .ok e ∧ answer .gt = .ok g ∧
        [l, e, g].count true = 1 := by
  intro names one size answer
  have hfield : "size" ∈ names := by decide
  have hsize : size.isNaN = false := by decide
  obtain ⟨-, -, -, hvalue⟩ := checked_discipline names "size" .gt one
  obtain ⟨-, horders⟩ := hvalue size rfl hsize rfl hfield (by simp [one])
  obtain ⟨l, e, g, hl, he, hg, hcount, -⟩ := horders (Or.inl rfl)
  exact ⟨⟨hfield, rfl, hsize, rfl⟩, by rfl, l, e, g, hl, he, hg, hcount⟩

end Clause

end Criteria
