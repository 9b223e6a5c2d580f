import Criteria.Proofs.Step.Reading
/-!
# Programs — without the refusal of degenerate conditions

A filter is lenient if it takes degenerate conditions too. The option is
read in one place, the objection of a filter to a condition, and nothing
else that a filter does or a leaf stands for depends on it. So where a step
is not refused as degenerate, taking the step and turning the option off
commute, and a program that never is runs the same way leniently: the
reports are the same ones but for the option that their filters carry.
-/

namespace Criteria

/-- The configuration with degenerate conditions taken. -/
def Config.lenient (config : Config) : Config := { config with rejectDegenerate := false }

/-- The refusal of a degenerate condition. -/
def Error.isDegenerate : Error → Bool
  | degenerate _ => true
  | _ => false

/-- No leaf stands for other conditions, since none looks at the option. -/
theorem Leaf.conditions_lenient {α : Type} (leaf : Leaf α) (config : Config) :
    leaf.conditions config.lenient = leaf.conditions config := by
  cases leaf with
  | text read check => cases check <;> rfl
  | _ => rfl

/-! ## Filters -/

namespace Filter

variable {α : Type} {c : Condition α}

/-- The same filter, with degenerate conditions taken. -/
def lenient (f : Filter α) : Filter α := { f with config := f.config.lenient }

/-- The outcome of a call with its filter made lenient. -/
def Outcome.lenient (o : Outcome α) : Outcome α := ⟨o.filter.lenient, o.refusal?⟩

variable {f : Filter α}

theorem objection?_lenient (f : Filter α) (c : Condition α) : f.lenient.objection? c = none := rfl

theorem push_lenient (f : Filter α) (c : Condition α) :
    f.lenient.push c = (f.push c).lenient := by
  by_cases h : f.group = []
  · rw [push_of_group_nil h, push_of_group_nil (f := f.lenient) h]
    rfl
  · rw [push_of_group_ne_nil h, push_of_group_ne_nil (f := f.lenient) h]
    rfl

theorem pushAll_lenient (f : Filter α) (cs : List (Condition α)) :
    f.lenient.pushAll cs = (f.pushAll cs).lenient := by
  induction cs generalizing f with
  | nil => rfl
  | cons c cs ih => rw [pushAll_cons, push_lenient, ih, pushAll_cons]

theorem or_lenient (f : Filter α) : f.lenient.or = f.or.lenient := by
  rcases f.records_cases with h | ⟨records, c, j, h⟩
  · rw [or_of_records_nil h, or_of_records_nil (f := f.lenient) h]
    rfl
  · rw [or_of_records_append h, or_of_records_append (f := f.lenient) h]
    rfl

/-- **A condition that is not refused as degenerate is taken the same
way.** No other refusal comes from a filter. -/
theorem add_lenient (h : (f.add c).refusal?.any Error.isDegenerate = false) :
    f.lenient.add c = (f.add c).lenient := by
  rcases f.add_cases c with ⟨d, -, hadd⟩ | ⟨-, hadd⟩
  · rw [hadd] at h
    cases h
  · rw [hadd, add_of_objection?_none (objection?_lenient f c), push_lenient]
    rfl

/-- A leaf is, always. -/
theorem addLeaf_lenient (f : Filter α) (leaf : Leaf α) :
    f.lenient.addLeaf leaf = (f.addLeaf leaf).lenient := by
  have hleaf : leaf.conditions f.lenient.config = leaf.conditions f.config :=
    leaf.conditions_lenient f.config
  rcases f.addLeaf_cases leaf with ⟨e, he, hadd⟩ | ⟨cs, hcs, hdiscerning, hadd⟩
  · rw [hadd, addLeaf, hleaf, he]
    rfl
  · rw [hadd, addLeaf, hleaf, hcs]
    exact (addAll_of_discerning hdiscerning f.lenient).trans (by rw [pushAll_lenient]; rfl)

/-- And so is a group, whose inner filter compiles to the same predicate. -/
theorem close_lenient {inner : Outcome α}
    (h : (f.close inner).refusal?.any Error.isDegenerate = false) :
    f.lenient.close inner.lenient = (f.close inner).lenient := by
  rcases he : inner.refusal? with - | e
  · simp only [close, he] at h
    simp only [close, Outcome.lenient, he]
    exact add_lenient h
  · simp only [close, Outcome.lenient, he]

/-- Nothing that shows of a filter depends on the option. -/
theorem alike_lenient (f : Filter α) : f.Alike id f.lenient :=
  ⟨rfl, rfl, rfl, rfl, rfl, fun _ _ => rfl, fun _ _ => rfl⟩

end Filter

/-! ## Sessions and reports -/

/-- The session with all of its filters lenient. -/
def Session.lenient {α : Type} (s : Session α) : Session α :=
  ⟨s.filter.lenient, s.kept, s.saved.map fun (name, f) => (name, f.lenient)⟩

/-- A name finds the saved filter made lenient, or nothing as before. -/
theorem Session.lookup_saved_lenient {α : Type} (s : Session α) (name : String) :
    s.lenient.saved.lookup name = (s.saved.lookup name).map Filter.lenient := by
  have hsaved : List.Forall₂ (Named fun f g => g = f.lenient) s.saved s.lenient.saved :=
    List.forall₂_map_right_iff.mpr (List.forall₂_same.mpr fun _ _ => ⟨rfl, rfl⟩)
  rcases lookup_cases hsaved name with ⟨hs, ht⟩ | ⟨f, g, hs, ht, rfl⟩ <;> rw [hs, ht] <;> rfl

namespace Report

variable {α : Type}

mutual

/-- The report with all of its filters lenient, inside groups too. -/
def lenient : Report α → Report α
  | mk s refusal? answer? inner => .mk s.lenient refusal? answer? (lenientAll inner)

def lenientAll : List (Report α) → List (Report α)
  | [] => []
  | report :: rest => report.lenient :: lenientAll rest

end

mutual

/-- Nothing was refused as degenerate: not the step, and none of the steps
inside it. -/
def isDiscerning : Report α → Bool
  | mk _ refusal? _ inner => !refusal?.any Error.isDegenerate && areDiscerning inner

def areDiscerning : List (Report α) → Bool
  | [] => true
  | report :: rest => report.isDiscerning && areDiscerning rest

end

theorem lenientAll_eq_map (reports : List (Report α)) :
    lenientAll reports = reports.map lenient := by
  induction reports with
  | nil => rfl
  | cons report rest ih => rw [lenientAll, ih, List.map_cons]

theorem areDiscerning_iff {reports : List (Report α)} :
    areDiscerning reports = true ↔ ∀ report ∈ reports, report.isDiscerning = true := by
  induction reports with
  | nil => simp [areDiscerning]
  | cons report rest ih => simp [areDiscerning, ih]

@[simp] theorem session_lenient (report : Report α) :
    report.lenient.session = report.session.lenient := by
  cases report; rfl

@[simp] theorem refusal?_lenient (report : Report α) :
    report.lenient.refusal? = report.refusal? := by
  cases report; rfl

/-- An outcome is all that such a report can be refused for. -/
theorem isDiscerning_ofOutcome {s : Session α} {o : Filter.Outcome α} :
    (ofOutcome s o).isDiscerning = true ↔ o.refusal?.any Error.isDegenerate = false := by
  simp [ofOutcome, isDiscerning, areDiscerning]

mutual

/-- **A lenient report is alike**, and so are the reports inside. -/
theorem paired_lenient : ∀ report : Report α, report.Paired (Alike id) report.lenient
  | .mk s _ _ inner => .mk ⟨rfl, s.filter.alike_lenient⟩ (paired_lenientAll inner)

theorem paired_lenientAll :
    ∀ reports : List (Report α), List.Forall₂ (Paired (Alike id)) reports (lenientAll reports)
  | [] => .nil
  | report :: rest => .cons (paired_lenient report) (paired_lenientAll rest)

end

end Report

/-- The trace of a program with all of its filters lenient. -/
def Trace.lenient {α : Type} (t : Trace α) : Trace α :=
  ⟨Report.lenientAll t.reports, t.session.lenient, t.refusal?⟩

/-! ## Running leniently -/

namespace Step

variable {α : Type}

/-- A condition is added leniently with the same report, unless it was
refused as degenerate. -/
theorem ofOutcome_add_lenient {s : Session α} {c : Condition α}
    (h : (Report.ofOutcome s (s.filter.add c)).isDiscerning = true) :
    Report.ofOutcome s.lenient (s.lenient.filter.add c) =
      (Report.ofOutcome s (s.filter.add c)).lenient :=
  congrArg (Report.ofOutcome s.lenient)
    (Filter.add_lenient (Report.isDiscerning_ofOutcome.mp h))

mutual

/-- **A step commutes with leniency** where neither it nor a step inside it
is refused as degenerate. -/
theorem run_lenient (s : Session α) :
    ∀ step : Step α, (step.run s).isDiscerning = true →
      step.run s.lenient = (step.run s).lenient
  | .look, _ | .refuse _, _ | .and, _ | .save _, _ => by simp only [run]; rfl
  | .or, _ => by
      simp only [run]
      exact congrArg (fun f => Report.done { s.lenient with filter := f }) s.filter.or_lenient
  | .add c, h => by
      rw [run] at h
      rw [run, run]
      exact ofOutcome_add_lenient h
  | .addLeaf leaf, _ => by
      rw [run, run]
      exact congrArg (Report.ofOutcome s.lenient) (s.filter.addLeaf_lenient leaf)
  | .group goesOn steps, h => by
      rw [run] at h
      rw [run, run]
      -- the filter inside begins empty and with the outer configuration
      have hinside : s.lenient.inside = s.inside.lenient := rfl
      generalize hinner : runAll goesOn s.inside steps = inner at h ⊢
      obtain ⟨hclose, hall⟩ : (s.filter.close ⟨inner.session.filter, inner.refusal?⟩).refusal?.any
          Error.isDegenerate = false ∧ Report.areDiscerning inner.reports = true := by
        simpa [Report.isDiscerning] using h
      have hafter := Filter.close_lenient hclose
      rw [hinside, runAll_lenient s.inside goesOn steps (hinner ▸ hall), hinner]
      exact congrArg (fun o : Filter.Outcome α => Report.mk { inner.session.lenient with
        filter := o.filter } o.refusal? none (Report.lenientAll inner.reports)) hafter
  | .attempt step, h => by
      rw [run] at h
      have hstep : (step.run s).isDiscerning = true := by
        simpa [Report.isDiscerning, Report.areDiscerning] using h
      rw [run, run, run_lenient s step hstep]
      simp only [Report.session_lenient]
      rfl
  | .ask query negated r items, _ => by
      have hpredicate : s.lenient.predicate negated = s.predicate negated := by
        cases negated <;> rfl
      rw [run, run, hpredicate]
      cases query.answer (s.predicate negated) r items <;> rfl
  | .keep name negated, _ => by
      simp only [run]
      cases negated <;> rfl
  | .negateKept name, _ => by
      have hkept : s.lenient.kept? name = s.kept? name := rfl
      rw [run, run, hkept]
      cases s.kept? name <;> rfl
  | .addKept name, h => by
      have hkept : s.lenient.kept? name = s.kept? name := rfl
      rw [run] at h
      rw [run, run, hkept]
      cases hname : s.kept? name with
      | none => rfl
      | some p =>
          rw [hname] at h
          exact ofOutcome_add_lenient h
  | .load name, _ => by
      rw [run, run, s.lookup_saved_lenient]
      cases s.saved.lookup name <;> rfl

/-- **And so does a run.** -/
theorem runAll_lenient (s : Session α) (goesOn : Bool) :
    ∀ steps : List (Step α), Report.areDiscerning (runAll goesOn s steps).reports = true →
      runAll goesOn s.lenient steps = (runAll goesOn s steps).lenient
  | [], _ => rfl
  | step :: rest, h => by
      -- the first step is refused in both runs or in neither, so both go on or both end
      rcases goesOn_or_refused goesOn s step with hgo | ⟨rfl, e, he⟩
      · rw [runAll_cons hgo] at h
        obtain ⟨hstep, hrest⟩ : (step.run s).isDiscerning = true ∧
            Report.areDiscerning (runAll goesOn (step.run s).session rest).reports = true := by
          simpa [Report.areDiscerning] using h
        have hrun := run_lenient s step hstep
        have hgo' : goesOn = true ∨ (step.run s.lenient).refusal? = none := by
          rwa [hrun, Report.refusal?_lenient]
        rw [runAll_cons hgo, runAll_cons hgo', hrun, Report.session_lenient,
          runAll_lenient (step.run s).session goesOn rest hrest]
        rfl
      · rw [runAll_cons_of_refused he] at h
        have hrun := run_lenient s step (by simpa [Report.areDiscerning] using h)
        have he' : (step.run s.lenient).refusal? = some e := by rwa [hrun, Report.refusal?_lenient]
        rw [runAll_cons_of_refused he, runAll_cons_of_refused he', hrun, Report.session_lenient]
        rfl

end

/-- **Taking degenerate conditions changes nothing but their refusals.**
Where a program that is configured to refuse them never meets one, inside
groups or out, the same program configured to take them reports the same:
each step is refused for the same cause, answered the same, and leads to the
same filter but for the option. So the two go through with filters of the
same size, joins and compiled shapes, whose predicates say the same of every
item. -/
theorem program_lenient (config : Config) {steps : List (Step α)}
    (h : ∀ report ∈ (program { config with rejectDegenerate := true } steps).reports,
      report.isDiscerning = true) :
    (program { config with rejectDegenerate := false } steps).reports =
        (program { config with rejectDegenerate := true } steps).reports.map Report.lenient ∧
      List.Forall₂ (Report.Paired (Report.Alike id))
        (program { config with rejectDegenerate := true } steps).reports
        (program { config with rejectDegenerate := false } steps).reports := by
  have hrun : program { config with rejectDegenerate := false } steps =
      (program { config with rejectDegenerate := true } steps).lenient :=
    runAll_lenient (.ofConfig { config with rejectDegenerate := true }) true steps
      (Report.areDiscerning_iff.mpr h)
  rw [hrun]
  exact ⟨Report.lenientAll_eq_map _, Report.paired_lenientAll _⟩

/-- A group of alternatives, and an attempt at a group that a call inside it
ends. -/
theorem program_lenient_three :
    let one : Condition Nat := .ofTest (· == 1)
    let two : Condition Nat := .ofTest (· == 2)
    let steps : List (Step Nat) := [.group false [.add one, .or, .add two],
      .attempt (.group false [.add one, .refuse (.missing "bound")]), .addLeaf (.test (· < 9))]
    (∀ report ∈ (program { Config.standard with rejectDegenerate := true } steps).reports,
        report.isDiscerning = true) ∧
      (program { Config.standard with rejectDegenerate := false } steps).reports =
        (program { Config.standard with rejectDegenerate := true } steps).reports.map
          Report.lenient := by
  intro one two steps
  have hdiscerning : ∀ report ∈
      (program { Config.standard with rejectDegenerate := true } steps).reports,
        report.isDiscerning = true := by decide
  exact ⟨hdiscerning, (program_lenient .standard hdiscerning).1⟩

end Step

end Criteria
