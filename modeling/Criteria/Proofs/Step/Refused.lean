import Criteria.Proofs.Step.Run
/-!
# Programs — refused steps

A refused step leaves the filter as it was, also the one that filled a
group first and the leaf of several conditions. So a program may be pruned:
the steps that fail are dropped, and so are those that fail inside its
groups where the group goes on. The pruned program is never refused and
ends in the same session.

What is kept under names escapes a refused group, so this needs that groups
keep nothing; outside of groups a program may keep what it likes.
-/

namespace Criteria

/-- A report without a refusal and without steps inside is smooth. -/
theorem Report.smooth_of_inner_nil {α : Type} {report : Report α} (hnone : report.refusal? = none)
    (hinner : report.inner = []) : report.Smooth := by
  obtain ⟨s, e, a, inner⟩ := report
  obtain rfl : e = none := hnone
  obtain rfl : inner = [] := hinner
  exact .mk (by simp)

namespace Step

variable {α : Type} {goesOn : Bool} {s : Session α} {step : Step α} {steps : List (Step α)}
  {e : Error}

/-- **A refused step leaves the filter as it was.** -/
theorem filter_run_of_refused (he : (step.run s).refusal? = some e) :
    (step.run s).session.filter = s.filter := by
  rcases filter_run_cases s step with hsame | ⟨hnone, -⟩
  · exact hsame
  · rw [hnone] at he; cases he

/-! ## What is kept -/

mutual

/-- The step keeps nothing under a name, and no step inside it does. -/
def keepsNothing : Step α → Bool
  | keep _ _ | negateKept _ | save _ => false
  | group _ steps => keepNothing steps
  | attempt step => step.keepsNothing
  | _ => true

/-- None of the steps does. -/
def keepNothing : List (Step α) → Bool
  | [] => true
  | step :: rest => step.keepsNothing && keepNothing rest

end

/-- Inside groups the step keeps nothing. -/
def tidy : Step α → Bool
  | group _ steps => keepNothing steps
  | attempt step => step.tidy
  | _ => true

theorem keepNothing_iff : keepNothing steps = true ↔ ∀ step ∈ steps, step.keepsNothing = true := by
  induction steps with
  | nil => simp [keepNothing]
  | cons step rest ih => simp [keepNothing, ih]

/-- To keep nothing anywhere is more. -/
theorem tidy_of_keepsNothing : ∀ step : Step α, step.keepsNothing = true → step.tidy = true
  | .group _ _, h => h
  | .attempt step, h => tidy_of_keepsNothing step h
  | .look, _ | .refuse _, _ | .add _, _ | .addLeaf _, _ | .and, _ | .or, _ | .ask _ _ _ _, _
  | .keep _ _, _ | .negateKept _, _ | .addKept _, _ | .save _, _ | .load _, _ => rfl

mutual

/-- **A step that keeps nothing changes the filter alone**, refused or
not. -/
theorem session_run_of_keepsNothing (s : Session α) :
    ∀ step : Step α, step.keepsNothing = true →
      (step.run s).session = { s with filter := (step.run s).session.filter }
  | .look, _ | .refuse _, _ | .add _, _ | .addLeaf _, _ | .and, _ | .or, _ => rfl
  | .group goesOn steps, h => by
      have hinner := session_runAll_of_keepNothing goesOn s.inside steps h
      rw [run, Report.session_mk, hinner]
      rfl
  | .attempt step, h => session_run_of_keepsNothing s step h
  | .ask query negated r items, _ => by
      rw [run]
      split <;> rfl
  | .addKept name, _ => by
      rw [run]
      split <;> rfl
  | .load name, _ => by
      rw [run]
      split <;> rfl

/-- And so do such steps in a row. -/
theorem session_runAll_of_keepNothing (goesOn : Bool) (s : Session α) :
    ∀ steps : List (Step α), keepNothing steps = true →
      (runAll goesOn s steps).session = { s with filter := (runAll goesOn s steps).session.filter }
  | [], _ => rfl
  | step :: rest, h => by
      obtain ⟨hstep, hrest⟩ : step.keepsNothing = true ∧ keepNothing rest = true := by
        simpa [keepNothing] using h
      -- the rest starts from the same session but for the filter
      have hsession := session_run_of_keepsNothing s step hstep
      rcases goesOn_or_refused goesOn s step with hgo | ⟨rfl, e, he⟩
      · rw [runAll_cons hgo]
        have hafter := session_runAll_of_keepNothing goesOn (step.run s).session rest hrest
        rw [hsession] at hafter ⊢
        exact hafter
      · rw [runAll_cons_of_refused he]
        exact hsession

end

/-! ## Steps that fail -/

/-- The step is refused, or attempts one that is. -/
def fails (s : Session α) : Step α → Bool
  | attempt step => step.fails s
  | step => (step.run s).refusal?.isSome

/-- What does not fail is not refused. -/
theorem refusal?_of_not_fails (h : step.fails s = false) : (step.run s).refusal? = none := by
  cases step with
  | attempt step => rfl
  | _ => simpa [fails] using h

/-- The steps that are refused are not those that keep. -/
theorem keepsNothing_of_refused (ht : step.tidy = true) (he : (step.run s).refusal? = some e) :
    step.keepsNothing = true := by
  cases step with
  | group goesOn steps => exact ht
  | attempt step => cases he
  | keep name negated => cases he
  | save name => cases he
  | negateKept name =>
      rw [run] at he
      split at he <;> cases he
  | _ => rfl

/-- **A tidy step that fails leaves the whole session as it was.** -/
theorem session_run_of_fails (s : Session α) (step : Step α) (ht : step.tidy = true)
    (hf : step.fails s = true) : (step.run s).session = s := by
  cases step with
  | attempt step => exact session_run_of_fails s step ht hf
  | _ =>
      obtain ⟨e, he⟩ := Option.isSome_iff_exists.mp hf
      rw [session_run_of_keepsNothing s _ (keepsNothing_of_refused ht he),
        filter_run_of_refused he]

/-! ## Pruned programs -/

mutual

/-- The step without those inside it that fail. -/
def pruned (s : Session α) : Step α → Step α
  | group goesOn steps => group goesOn (prunedAll s.inside steps)
  | attempt step => attempt (step.pruned s)
  | step => step

/-- The program without the steps that fail, at any depth. -/
def prunedAll (s : Session α) : List (Step α) → List (Step α)
  | [] => []
  | step :: rest =>
      if step.fails s then prunedAll (step.run s).session rest
      else step.pruned s :: prunedAll (step.run s).session rest

end

/-- Pruning follows the run: what comes later is pruned where the run has
come to. -/
theorem prunedAll_append (s : Session α) (first second : List (Step α)) :
    prunedAll s (first ++ second) =
      prunedAll s first ++ prunedAll (runAll true s first).session second := by
  induction first generalizing s with
  | nil => rfl
  | cons step rest ih =>
      rw [List.cons_append, prunedAll, prunedAll, runAll_cons (Or.inl rfl), ih]
      split <;> rfl

mutual

/-- **A step that does not fail does the same without those inside it that
do**, and nothing is refused any more. -/
theorem run_pruned (s : Session α) (step : Step α) (ht : step.tidy = true)
    (hf : step.fails s = false) :
    ((step.pruned s).run s).session = (step.run s).session ∧ ((step.pruned s).run s).Smooth := by
  have hnone : (step.run s).refusal? = none := refusal?_of_not_fails hf
  have hinner := inner_run_cases s step
  cases step with
  | group goesOn steps =>
      have htidy : ∀ step ∈ steps, step.tidy = true := fun step hstep =>
        tidy_of_keepsNothing step (keepNothing_iff.mp ht step hstep)
      rcases run_group_cases s goesOn steps with ⟨e, he, -⟩ | ⟨hinside, hno⟩
      · rw [hnone] at he; cases he
      · obtain ⟨hsession, hrefusal, hsmooth⟩ :=
          runAll_prunedAll goesOn s.inside steps htidy hinside
        -- the inside ends in the same filter, so the condition it comes to is taken again
        have hno' : s.filter.objection? (runAll goesOn s.inside
            (prunedAll s.inside steps)).session.filter.build.toCondition = none := by
          rw [hsession]; exact hno
        rw [pruned, run_group hrefusal hno', run_group hinside hno, hsession]
        exact ⟨rfl, .mk hsmooth⟩
  | attempt step =>
      obtain ⟨hsession, hsmooth⟩ := run_pruned s step ht hf
      exact ⟨hsession, .mk (by simpa using hsmooth)⟩
  | _ => exact ⟨rfl, Report.smooth_of_inner_nil hnone (hinner.resolve_right (by simp))⟩

/-- **And so does a run that is not refused.** -/
theorem runAll_prunedAll (goesOn : Bool) (s : Session α) (steps : List (Step α))
    (ht : ∀ step ∈ steps, step.tidy = true) (hnone : (runAll goesOn s steps).refusal? = none) :
    (runAll goesOn s (prunedAll s steps)).session = (runAll goesOn s steps).session ∧
      (runAll goesOn s (prunedAll s steps)).refusal? = none ∧
      ∀ report ∈ (runAll goesOn s (prunedAll s steps)).reports, report.Smooth := by
  cases steps with
  | nil => exact ⟨rfl, rfl, by simp [prunedAll, runAll]⟩
  | cons step rest =>
      have hstep : step.tidy = true := ht step (by simp)
      have hrest : ∀ next ∈ rest, next.tidy = true := fun next hnext => ht next (by simp [hnext])
      rcases goesOn_or_refused goesOn s step with hgo | ⟨rfl, e, he⟩
      · rw [runAll_cons hgo] at hnone ⊢
        obtain ⟨hsession, hrefusal, hsmooth⟩ :=
          runAll_prunedAll goesOn (step.run s).session rest hrest hnone
        rw [prunedAll]
        by_cases hf : step.fails s = true
        · -- the step is dropped, and the rest is pruned and run from where it began
          rw [if_pos hf]
          rw [session_run_of_fails s step hstep hf] at hsession hrefusal hsmooth ⊢
          exact ⟨hsession, hrefusal, hsmooth⟩
        · rw [if_neg hf]
          obtain ⟨hsame, hfirst⟩ := run_pruned s step hstep (by simpa using hf)
          rw [runAll_cons (Or.inr hfirst.refusal?_eq_none), hsame]
          refine ⟨hsession, hrefusal, fun report hreport => ?_⟩
          rcases List.mem_cons.mp hreport with rfl | hmem
          · exact hfirst
          · exact hsmooth report hmem
      · rw [runAll_cons_of_refused he] at hnone; cases hnone

end

/-- **Refused steps leave no trace.** In every session a refused step, and
all that ran inside it, leaves the filter as it was: its chain with the
joins, the open group, the join in hand and the configuration. So a program
whose groups keep nothing comes through the same sessions without the steps
that fail, and then nothing in it is refused. -/
theorem refused_leave_no_trace (s : Session α) (steps : List (Step α)) :
    (∀ (step : Step α) (e : Error), (step.run s).refusal? = some e →
        (step.run s).session.filter = s.filter) ∧
      ((∀ step ∈ steps, step.tidy = true) →
        (∀ n, prunedAll s (steps.take n) <+: prunedAll s steps ∧
          (runAll true s (prunedAll s (steps.take n))).session =
            (runAll true s (steps.take n)).session) ∧
        ∀ report ∈ (runAll true s (prunedAll s steps)).reports, report.Smooth) := by
  refine ⟨fun step e he => filter_run_of_refused he, fun ht => ⟨fun n => ⟨?_, ?_⟩, ?_⟩⟩
  · have happend := prunedAll_append s (steps.take n) (steps.drop n)
    rw [List.take_append_drop] at happend
    rw [happend]
    exact List.prefix_append _ _
  · have htake : ∀ step ∈ steps.take n, step.tidy = true := fun step hstep =>
      ht step (List.mem_of_mem_take hstep)
    exact (runAll_prunedAll true s _ htake (refusal?_runAll_true s _)).1
  · exact (runAll_prunedAll true s steps ht (refusal?_runAll_true s steps)).2.2

example :
    let one : Condition Nat := .ofTest (· == 1)
    prunedAll (.ofConfig .standard)
        [.add (.literal true), .group true [.add (.literal false), .add one], .group false []] =
      [.group true [.add one]] := rfl

end Step

end Criteria
