import Criteria.Proofs.Clause.Checked
import Criteria.Proofs.Leaf.Terms
/-!
# Leaves — what they change

A leaf is refused for its arguments or goes in whole, and how many conditions
that is shows on the leaf. They go to the end of the open group, or to the
end of the chain with the join in hand, and the join is `and` afterwards;
nothing else of the session changes.
-/

namespace Criteria

/-! ## Refusals

No argument is refused as a degenerate condition. Degeneracy is the filter's
to object to, and the guards, the patterns and the clauses have causes of
their own. -/

/-- If the call fails, then not for a degenerate condition. -/
def NeverDegenerate {β : Type} (x : Except Error β) : Prop := ∀ d, x ≠ .error (.degenerate d)

namespace NeverDegenerate

variable {β γ : Type} {x : Except Error β}

theorem ok (b : β) : NeverDegenerate (.ok b : Except Error β) := by
  intro d h
  cases h

theorem map (h : NeverDegenerate x) (k : β → γ) : NeverDegenerate (x.map k) := by
  cases x with
  | ok b => exact ok (k b)
  | error e =>
    intro d he
    exact h d (congrArg Except.error (Except.error.inj he))

/-- Of two calls in a row either may fail. -/
theorem bind {k : β → Except Error γ} (h : NeverDegenerate x) (hk : ∀ b, NeverDegenerate (k b)) :
    NeverDegenerate (x >>= k) := by
  cases x with
  | ok b => exact hk b
  | error e =>
    intro d he
    exact h d (congrArg Except.error (Except.error.inj he))

end NeverDegenerate

namespace Guard

theorem neverDegenerate_ensurePositive (name : String) (value : Int) :
    NeverDegenerate (ensurePositive name value) := by
  intro d h
  rw [ensurePositive] at h
  split at h <;> cases h

theorem neverDegenerate_ensureNotBlank (name value : String) :
    NeverDegenerate (ensureNotBlank name value) := by
  intro d h
  rw [ensureNotBlank] at h
  split at h <;> cases h

theorem neverDegenerate_ensureOrdered {β : Type} [Bound β] (least greatest : β) :
    NeverDegenerate (ensureOrdered least greatest) := by
  intro d h
  rw [ensureOrdered] at h
  split at h <;> cases h

end Guard

/-- A comparison is refused for its operator. -/
theorem Condition.neverDegenerate_compare {α : Type} (left : Operand α) (op : Operator)
    (right : Operand α) : NeverDegenerate (Condition.compare left op right) := by
  intro d h
  rw [Condition.compare] at h
  split at h <;> cases h

/-- A test of a text is refused for its pattern. -/
theorem TextTest.neverDegenerate_check (config : Config) (t : TextTest) :
    NeverDegenerate (t.check config) := by
  cases t with
  | pattern source =>
    intro d h
    rw [check] at h
    split at h
    · cases h
    · split at h <;> cases h
  | _ => exact .ok _

theorem NumberTest.neverDegenerate_against (op : Operator) (bound : Number) :
    NeverDegenerate (against op bound) :=
  Condition.neverDegenerate_compare (.read id) op (.literal bound)

/-- A test of a number is refused for bounds that do not order, and for no
single bound. -/
theorem NumberTest.neverDegenerate_condition (t : NumberTest) : NeverDegenerate t.condition := by
  cases t with
  | between least greatest =>
    refine (Guard.neverDegenerate_ensureOrdered least greatest).bind fun _ => ?_
    refine (neverDegenerate_against .gte least).bind fun low => ?_
    exact (neverDegenerate_against .lte greatest).bind fun high => .ok (low.and high)
  | _ => simpa only [condition] using neverDegenerate_against _ _

/-- A test of a moment is refused for its range or its window. -/
theorem MomentTest.neverDegenerate_check (clock : Clock) (t : MomentTest) :
    NeverDegenerate (t.check clock) := by
  cases t with
  | between first last => exact (Guard.neverDegenerate_ensureOrdered first last).map _
  | lastDays days | nextDays days => exact (Guard.neverDegenerate_ensurePositive "days" days).map _
  | _ => exact .ok _

/-- A clause is refused for its field or its comparand. -/
theorem Clause.neverDegenerate_checked (names : List String) (field : String) (op : Operator)
    (comparand : Comparand) : NeverDegenerate (Clause.checked names field op comparand) := by
  intro d h
  by_cases hfield : field ∈ names
  · rw [Clause.checked_eq_error_iff hfield] at h
    rcases Comparand.suited_cases op comparand with ⟨kept, hkept⟩ | hmalformed | ⟨_, _, hinvalid⟩
    · cases h.symm.trans hkept.suited_eq
    · cases h.symm.trans hmalformed.suited_eq
    · cases h.symm.trans hinvalid
  · rw [Clause.checked_of_not_mem hfield] at h
    cases h

namespace Leaf

variable {α : Type} {config : Config} {leaf : Leaf α} {cs : List (Condition α)}

/-- **No argument of a leaf is refused as a degenerate condition.** -/
theorem neverDegenerate_conditions (config : Config) (leaf : Leaf α) :
    NeverDegenerate (leaf.conditions config) := by
  cases leaf with
  | test holds => exact .ok _
  | text read check => exact ((TextTest.neverDegenerate_check config check).map _).map _
  | anyTerm terms reads =>
    refine (Guard.neverDegenerate_ensureNotBlank "terms" terms).bind fun _ => ?_
    intro d h
    split at h <;> cases h
  | number read check => exact (NumberTest.neverDegenerate_condition check).map _
  | moment read check => exact ((MomentTest.neverDegenerate_check config.clock check).map _).map _
  | sizeBetween size least greatest => exact (Guard.neverDegenerate_ensureOrdered least greatest).map _
  | field name op comparand =>
    exact ((Clause.neverDegenerate_checked (Fields.names α) name op comparand).map _).map _
  | fieldPattern name pattern =>
    refine (Guard.neverDegenerate_ensureNotBlank "pattern" pattern).bind fun _ => ?_
    have hchecked := Clause.neverDegenerate_checked (Fields.names α) name .regex (.text pattern)
    exact (hchecked.map _).bind fun c => .ok _

/-! ## How many conditions -/

/-- The number of conditions that a leaf stands for: one, but one a text for
the search of several texts. -/
def width : Leaf α → Nat
  | anyTerm _ reads => reads.length
  | _ => 1

/-- A search of several texts that is not refused has a text to look in, and
stands for the conditions of its texts in their order. -/
theorem conditions_anyTerm_eq_ok {terms : String} {reads : List (α → String)}
    (h : (anyTerm terms reads).conditions config = .ok cs) :
    reads ≠ [] ∧ cs = eachText config terms reads := by
  cases hterms : Text.isBlank terms.toList with
  | true =>
    rw [conditions_anyTerm_blank config hterms] at h
    cases h
  | false =>
    have hreads : reads ≠ [] := by
      rintro rfl
      rw [conditions_anyTerm_nil config hterms] at h
      cases h
    rw [conditions_anyTerm config hterms hreads] at h
    exact ⟨hreads, (Except.ok.inj h).symm⟩

/-- **A leaf that is not refused stands for as many conditions as shows on
it**, and for one at least. -/
theorem length_conditions (h : leaf.conditions config = .ok cs) :
    cs.length = leaf.width ∧ cs ≠ [] := by
  have hone {c : Condition α} (hc : [c] = cs) : cs.length = 1 ∧ cs ≠ [] := by
    subst hc
    exact ⟨rfl, List.cons_ne_nil c []⟩
  cases leaf with
  | test holds => exact hone (Except.ok.inj h)
  | anyTerm terms reads =>
    obtain ⟨hreads, rfl⟩ := conditions_anyTerm_eq_ok h
    exact ⟨List.length_map _, by simpa [eachText] using hreads⟩
  | fieldPattern name pattern =>
    obtain ⟨-, -, h⟩ := exists_ok_of_bind h
    obtain ⟨c, -, hc⟩ := exists_ok_of_bind h
    exact hone (Except.ok.inj hc)
  | text | number | moment | sizeBetween | field =>
    obtain ⟨c, -, hc⟩ := exists_ok_of_map h
    exact hone hc

end Leaf

/-! ## Where they go -/

namespace Filter

variable {α : Type} {f : Filter α} {cs : List (Condition α)}

/-- A row of conditions as a chain takes it: the first with the join in hand,
the others with `and`. -/
def linked (j : Join) : List (Condition α) → List (Condition α × Join)
  | [] => []
  | c :: rest => (c, j) :: linked .and rest

/-- Without a group a row ends the chain. -/
theorem pushAll_of_group_nil (h : f.group = []) (hcs : cs ≠ []) :
    f.pushAll cs = { f with records := f.records ++ linked f.next cs, next := .and } := by
  induction cs generalizing f with
  | nil => exact absurd rfl hcs
  | cons c rest ih =>
    by_cases hrest : rest = []
    · subst hrest
      exact push_of_group_nil h
    · have hgroup : (f.push c).group = [] := by rw [push_of_group_nil h, h]
      rw [pushAll_cons, ih hgroup hrest, push_of_group_nil h, List.append_assoc]
      rfl

/-- With a group open it ends the group, and the chain stays. -/
theorem pushAll_eq_of_group_ne_nil (h : f.group ≠ []) (hcs : cs ≠ []) :
    f.pushAll cs = { f with group := f.group ++ cs, next := .and } := by
  obtain ⟨hrecords, hgroup⟩ := pushAll_of_group_ne_nil h cs
  have hnext : (f.pushAll cs).next = .and := pushAll_next (Or.inr hcs)
  calc f.pushAll cs
      = ⟨(f.pushAll cs).records, (f.pushAll cs).group, (f.pushAll cs).next,
          (f.pushAll cs).config⟩ := rfl
    _ = { f with group := f.group ++ cs, next := .and } := by
        rw [hrecords, hgroup, hnext, pushAll_config]

end Filter

namespace Step

variable {α : Type}

/-- **What a leaf changes.** It is never refused as a degenerate condition,
and a refusal changes nothing. If it is not refused, its conditions go in:
one, or as many as there are texts to search, in the order of the texts. With
a group open they end the group; else they end the chain, the first with the
join in hand and the others with `and`. The join is `and` afterwards, and all
else in the session is as it was. -/
theorem run_addLeaf_frame (s : Session α) (leaf : Leaf α) :
    let report := (addLeaf leaf).run s
    (∀ d, report.refusal? ≠ some (.degenerate d)) ∧
      (∀ e, report.refusal? = some e → report.session = s) ∧
      (report.refusal? = none → ∃ cs, leaf.conditions s.filter.config = .ok cs ∧
        cs.length = leaf.width ∧
        (∀ terms reads, leaf = .anyTerm terms reads →
          cs = Leaf.eachText s.filter.config terms reads) ∧
        (s.filter.hasOpenGroup = true → report.session =
          { s with filter := { s.filter with group := s.filter.group ++ cs, next := .and } }) ∧
        (s.filter.hasOpenGroup = false → report.session =
          { s with filter := { s.filter with
            records := s.filter.records ++ Filter.linked s.filter.next cs, next := .and } })) := by
  intro report
  have hreport : report = .ofOutcome s (s.filter.addLeaf leaf) := rfl
  cases h : leaf.conditions s.filter.config with
  | error e =>
    rw [Filter.addLeaf_of_error h] at hreport
    rw [hreport]
    refine ⟨fun d hd => ?_, fun _ _ => rfl, fun hnone => (nomatch hnone)⟩
    obtain rfl : e = .degenerate d := Option.some.inj hd
    exact Leaf.neverDegenerate_conditions s.filter.config leaf d h
  | ok cs =>
    obtain ⟨hlength, hcs⟩ := Leaf.length_conditions h
    rw [Filter.addLeaf_of_ok h] at hreport
    rw [hreport]
    refine ⟨fun d hd => (nomatch hd), fun e he => (nomatch he),
      fun _ => ⟨cs, rfl, hlength, ?_, fun hopen => ?_, fun hclosed => ?_⟩⟩
    · rintro terms reads rfl
      exact (Leaf.conditions_anyTerm_eq_ok h).2
    · have hg : s.filter.group ≠ [] := by simpa [Filter.hasOpenGroup] using hopen
      rw [← Filter.pushAll_eq_of_group_ne_nil hg hcs]
      rfl
    · have hg : s.filter.group = [] := by simpa [Filter.hasOpenGroup] using hclosed
      rw [← Filter.pushAll_of_group_nil hg hcs]
      rfl

/-- Two texts searched in a group that `or` has opened: the group of one grows
to three, and the chain stays empty. -/
theorem run_addLeaf_frame_pair :
    let opened : List (Step (String × String)) := [.add (.ofTest fun item => item.1 == "z"), .or]
    let s := (program .standard opened).session
    let leaf : Leaf (String × String) := .anyTerm "x y" [Prod.fst, Prod.snd]
    let report := (addLeaf leaf).run s
    s.filter.hasOpenGroup = true ∧ report.refusal? = none ∧
      ∃ cs, leaf.conditions s.filter.config = .ok cs ∧ cs.length = 2 ∧
        report.session =
          { s with filter := { s.filter with group := s.filter.group ++ cs, next := .and } } ∧
        report.session.filter.group.length = 3 ∧ report.session.filter.records.length = 0 := by
  intro opened s leaf report
  have hnone : report.refusal? = none := by decide
  obtain ⟨-, -, hframe⟩ := run_addLeaf_frame s leaf
  obtain ⟨cs, hcs, hlength, -, hopen, -⟩ := hframe hnone
  have hsession := hopen rfl
  refine ⟨rfl, hnone, cs, hcs, hlength, hsession, ?_, ?_⟩
  · rw [hsession, List.length_append, hlength]
    rfl
  · rw [hsession]
    rfl

end Step

end Criteria
