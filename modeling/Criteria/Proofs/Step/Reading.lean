import Criteria.Proofs.Leaf.Reading
import Criteria.Proofs.Step.Run
/-!
# Programs — what is read off an item

Two programs whose conditions and leaves read alike go through in step:
step by step, inside groups too, they are refused alike and lead to filters
that nothing tells apart, since each filter of the one reads as the filter
of the other.

A program over one type of items so becomes one over another once every
condition that it adds reads the first off the second. Leaves and questions
are about items of their own, so a program that is read through has none;
what it keeps and saves it may use again.
-/

namespace Criteria

variable {α β : Type} {read : α → β}

/-! ## Sessions and reports in step -/

/-- Two rows of named values have the same names in the same places, and
the values match. -/
def Named {γ δ : Type} (R : γ → δ → Prop) (a : String × γ) (b : String × δ) : Prop :=
  a.1 = b.1 ∧ R a.2 b.2

/-- In such rows a name finds nothing in both, or values that match. -/
theorem lookup_cases {γ δ : Type} {R : γ → δ → Prop} {xs : List (String × γ)}
    {ys : List (String × δ)} (h : List.Forall₂ (Named R) xs ys) (name : String) :
    (xs.lookup name = none ∧ ys.lookup name = none) ∨
      ∃ x y, xs.lookup name = some x ∧ ys.lookup name = some y ∧ R x y := by
  induction h with
  | nil => exact Or.inl ⟨rfl, rfl⟩
  | @cons a b _ _ hab _ ih =>
      obtain ⟨key, x⟩ := a
      obtain ⟨key', y⟩ := b
      obtain ⟨hkey, hxy⟩ := hab
      obtain rfl : key = key' := hkey
      rw [List.lookup_cons, List.lookup_cons]
      cases name == key with
      | true => exact Or.inr ⟨x, y, rfl, rfl, hxy⟩
      | false => exact ih

/-- The filters of two sessions, and all that they keep, read alike. -/
structure Session.Reads (read : α → β) (s : Session α) (t : Session β) : Prop where
  filter : s.filter.Reads read t.filter
  kept : List.Forall₂ (Named fun p q => p.toCondition.Reads read q.toCondition) s.kept t.kept
  saved : List.Forall₂ (Named (Filter.Reads read)) s.saved t.saved

namespace Session.Reads

variable {s : Session α} {t : Session β}

theorem ofConfig (config : Config) :
    (Session.ofConfig config).Reads read (Session.ofConfig config) :=
  ⟨.ofConfig config, .nil, .nil⟩

/-- Groups begin alike. -/
theorem inside (h : s.Reads read t) : s.inside.Reads read t.inside :=
  ⟨by rw [Session.inside, Session.inside, h.filter.config_eq]; exact .ofConfig _, h.kept, h.saved⟩

theorem withFilter (h : s.Reads read t) {f : Filter α} {g : Filter β} (hf : f.Reads read g) :
    Session.Reads read { s with filter := f } { t with filter := g } :=
  ⟨hf, h.kept, h.saved⟩

theorem keep (h : s.Reads read t) (name : String) {p : Predicate α} {q : Predicate β}
    (hp : p.toCondition.Reads read q.toCondition) : (s.keep name p).Reads read (t.keep name q) :=
  ⟨h.filter, .cons ⟨rfl, hp⟩ h.kept, h.saved⟩

/-- The predicates of the filters, or their negations. -/
theorem predicate (h : s.Reads read t) (negated : Bool) :
    (s.predicate negated).toCondition.Reads read (t.predicate negated).toCondition := by
  cases negated with
  | false => exact h.filter.build
  | true => exact h.filter.build.not

end Session.Reads

namespace Report

/-- A relation holds of two reports, and of the reports inside them one by
one. -/
inductive Paired (R : Report α → Report β → Prop) : Report α → Report β → Prop
  | mk {a : Report α} {b : Report β} :
      R a b → List.Forall₂ (Paired R) a.inner b.inner → Paired R a b

/-- Both were refused, for the same cause, or neither; and nothing that
shows tells the filters apart. -/
structure Alike (read : α → β) (a : Report α) (b : Report β) : Prop where
  refusal?_eq : a.refusal? = b.refusal?
  filter : a.session.filter.Alike read b.session.filter

/-- What two steps in step report. -/
structure Reads (read : α → β) (a : Report α) (b : Report β) : Prop where
  refusal?_eq : a.refusal? = b.refusal?
  session : a.session.Reads read b.session
  inner : List.Forall₂ (Paired (Alike read)) a.inner b.inner

namespace Reads

variable {s : Session α} {t : Session β}

/-- Such reports are alike, and so are those inside. -/
theorem paired {a : Report α} {b : Report β} (h : a.Reads read b) : a.Paired (Alike read) b :=
  .mk ⟨h.refusal?_eq, h.session.filter.alike⟩ h.inner

theorem done (h : s.Reads read t) : (Report.done s).Reads read (Report.done t) :=
  ⟨rfl, h, .nil⟩

theorem ofOutcome (h : s.Reads read t) {o : Filter.Outcome α} {o' : Filter.Outcome β}
    (ho : o.Reads read o') : (Report.ofOutcome s o).Reads read (Report.ofOutcome t o') :=
  ⟨ho.refusal?_eq, h.withFilter ho.filter, .nil⟩

end Reads

end Report

/-- What two programs in step report. -/
structure Trace.Reads (read : α → β) (a : Trace α) (b : Trace β) : Prop where
  reports : List.Forall₂ (Report.Paired (Report.Alike read)) a.reports b.reports
  session : a.session.Reads read b.session
  refusal?_eq : a.refusal? = b.refusal?

/-- What the steps of two groups come to. -/
theorem Trace.Reads.outcome {a : Trace α} {b : Trace β} (h : a.Reads read b) :
    Filter.Outcome.Reads read ⟨a.session.filter, a.refusal?⟩ ⟨b.session.filter, b.refusal?⟩ :=
  ⟨h.session.filter, h.refusal?_eq⟩

/-- Two sessions in step under a configuration: all that the one holds and
keeps reads as what the other does, and the filters are those that calls
lead to, so that they have the configuration. -/
structure Session.InStep (config : Config) (read : α → β) (s : Session α) (t : Session β) :
    Prop where
  reachable : s.Reachable config
  reads : s.Reads read t

namespace Session.InStep

variable {config : Config} {s : Session α} {t : Session β}

theorem ofConfig (config : Config) :
    Session.InStep config read (Session.ofConfig config) (Session.ofConfig config) :=
  ⟨.ofConfig config, .ofConfig config⟩

theorem inside (h : s.InStep config read t) : s.inside.InStep config read t.inside :=
  ⟨h.reachable.inside, h.reads.inside⟩

/-- A step that the two report alike leads to sessions in step. -/
theorem run (h : s.InStep config read t) {a : Step α} {b : Step β}
    (hrun : (a.run s).Reads read (b.run t)) :
    (a.run s).session.InStep config read (b.run t).session :=
  ⟨Step.run_reachable h.reachable a, hrun.session⟩

end Session.InStep

/-- Whether a query is refused, and for what, is up to the query. -/
theorem Query.answer_cases (query : Query) (p : Predicate α) (q : Predicate β)
    (r r' : Clock.Readings) (items : List α) (items' : List β) :
    (∃ e, query.answer p r items = .error e ∧ query.answer q r' items' = .error e) ∨
      ∃ a a', query.answer p r items = .ok a ∧ query.answer q r' items' = .ok a' := by
  cases query with
  | page number size =>
      rw [answer, answer, Predicate.page, Predicate.page]
      cases Guard.ensurePagination number size with
      | error e => exact Or.inl ⟨e, rfl, rfl⟩
      | ok _ => exact Or.inr ⟨_, _, rfl, rfl⟩
  | _ => exact Or.inr ⟨_, _, rfl, rfl⟩

namespace Step

/-! ## Steps in step -/

/-- A step reads as another where the two do the same, with conditions and
leaves that read alike. A question changes no filter, and is refused for
what it asks and not for the items that it asks about, so these may be
any. -/
inductive Reads (config : Config) (read : α → β) : Step α → Step β → Prop
  | look : Reads config read .look .look
  | refuse (cause : Error) : Reads config read (.refuse cause) (.refuse cause)
  | add {c : Condition α} {d : Condition β} : c.Reads read d → Reads config read (.add c) (.add d)
  | addLeaf {a : Leaf α} {b : Leaf β} :
      a.Reads config read b → Reads config read (.addLeaf a) (.addLeaf b)
  | and : Reads config read .and .and
  | or : Reads config read .or .or
  | group (goesOn : Bool) {steps : List (Step α)} {steps' : List (Step β)} :
      List.Forall₂ (Reads config read) steps steps' →
      Reads config read (.group goesOn steps) (.group goesOn steps')
  | attempt {step : Step α} {step' : Step β} :
      Reads config read step step' → Reads config read (.attempt step) (.attempt step')
  | ask (query : Query) (negated : Bool) (r r' : Clock.Readings) (items : List α)
      (items' : List β) :
      Reads config read (.ask query negated r items) (.ask query negated r' items')
  | keep (name : String) (negated : Bool) :
      Reads config read (.keep name negated) (.keep name negated)
  | negateKept (name : String) : Reads config read (.negateKept name) (.negateKept name)
  | addKept (name : String) : Reads config read (.addKept name) (.addKept name)
  | save (name : String) : Reads config read (.save name) (.save name)
  | load (name : String) : Reads config read (.load name) (.load name)

mutual

/-- A step reads as itself, where nothing is read off the item first. -/
theorem reads_refl (config : Config) : ∀ step : Step α, step.Reads config id step
  | .look => .look
  | .refuse cause => .refuse cause
  | .add c => .add c.reads_refl
  | .addLeaf leaf => .addLeaf (leaf.reads_refl config)
  | .and => .and
  | .or => .or
  | .group goesOn steps => .group goesOn (readsAll_refl config steps)
  | .attempt step => .attempt (reads_refl config step)
  | .ask query negated r items => .ask query negated r r items items
  | .keep name negated => .keep name negated
  | .negateKept name => .negateKept name
  | .addKept name => .addKept name
  | .save name => .save name
  | .load name => .load name

theorem readsAll_refl (config : Config) :
    ∀ steps : List (Step α), List.Forall₂ (Reads config id) steps steps
  | [] => .nil
  | step :: rest => .cons (reads_refl config step) (readsAll_refl config rest)

end

mutual

/-- **Steps that read alike go through in step** from sessions that are. -/
theorem run_reads {config : Config} {s : Session α} {t : Session β}
    (h : s.InStep config read t) :
    ∀ {step : Step α} {step' : Step β}, step.Reads config read step' →
      (step.run s).Reads read (step'.run t)
  | .look, _, .look => by
      rw [run, run]
      exact .done h.reads
  | .refuse _, _, .refuse _ => by
      rw [run, run]
      exact ⟨rfl, h.reads, .nil⟩
  | .add _, _, .add hc => by
      rw [run, run]
      exact .ofOutcome h.reads (h.reads.filter.add hc)
  | .addLeaf _, _, .addLeaf hleaf => by
      -- a leaf looks at the filter's configuration, which is the one it reads alike under
      rw [run, run]
      exact .ofOutcome h.reads
        (h.reads.filter.addLeaf (h.reachable.filter.config_eq.symm ▸ hleaf))
  | .and, _, .and => by
      rw [run, run]
      exact .done (h.reads.withFilter h.reads.filter.and)
  | .or, _, .or => by
      rw [run, run]
      exact .done (h.reads.withFilter h.reads.filter.or)
  | .group goesOn _, _, .group _ hsteps => by
      -- both groups begin with an empty filter, so what is inside is in step again
      have hinner := runAll_reads h.inside goesOn hsteps
      have hclose := h.reads.filter.close hinner.outcome
      rw [run, run]
      exact ⟨hclose.refusal?_eq, hinner.session.withFilter hclose.filter, hinner.reports⟩
  | .attempt _, _, .attempt hstep => by
      have hstep := run_reads h hstep
      rw [run, run]
      exact ⟨rfl, hstep.session, .cons hstep.paired .nil⟩
  | .ask _ _ _ _, _, .ask query negated r r' items items' => by
      rw [run, run]
      rcases query.answer_cases (s.predicate negated) (t.predicate negated) r r' items items' with
        ⟨e, hs, ht⟩ | ⟨a, a', hs, ht⟩ <;> rw [hs, ht] <;> exact ⟨rfl, h.reads, .nil⟩
  | .keep _ _, _, .keep name negated => by
      rw [run, run]
      exact .done (h.reads.keep name (h.reads.predicate negated))
  | .negateKept _, _, .negateKept name => by
      rw [run, run, Session.kept?, Session.kept?]
      rcases lookup_cases h.reads.kept name with ⟨hs, ht⟩ | ⟨p, q, hs, ht, hp⟩ <;> rw [hs, ht]
      · exact .done h.reads
      · exact .done (h.reads.keep name hp.not)
  | .addKept _, _, .addKept name => by
      rw [run, run, Session.kept?, Session.kept?]
      rcases lookup_cases h.reads.kept name with ⟨hs, ht⟩ | ⟨p, q, hs, ht, hp⟩ <;> rw [hs, ht]
      · exact .done h.reads
      · exact .ofOutcome h.reads (h.reads.filter.add hp)
  | .save _, _, .save name => by
      rw [run, run]
      exact .done ⟨h.reads.filter, h.reads.kept, .cons ⟨rfl, h.reads.filter⟩ h.reads.saved⟩
  | .load _, _, .load name => by
      rw [run, run]
      rcases lookup_cases h.reads.saved name with ⟨hs, ht⟩ | ⟨f, g, hs, ht, hf⟩ <;> rw [hs, ht]
      · exact .done h.reads
      · exact .done (h.reads.withFilter hf)

/-- **And so do rows of them**: they are refused at the same step. -/
theorem runAll_reads {config : Config} {s : Session α} {t : Session β}
    (h : s.InStep config read t) (goesOn : Bool) :
    ∀ {steps : List (Step α)} {steps' : List (Step β)},
      List.Forall₂ (Reads config read) steps steps' →
      (runAll goesOn s steps).Reads read (runAll goesOn t steps')
  | [], _, .nil => ⟨.nil, h.reads, rfl⟩
  | _ :: _, step' :: _, .cons hstep hrest => by
      have hstep := run_reads h hstep
      -- the two first steps are refused alike, so the rows end together
      rcases goesOn_or_refused goesOn t step' with hgo | ⟨rfl, e, he⟩
      · have hafter := runAll_reads (h.run hstep) goesOn hrest
        rw [runAll_cons hgo, runAll_cons (hstep.refusal?_eq ▸ hgo)]
        exact ⟨.cons hstep.paired hafter.reports, hafter.session, hafter.refusal?_eq⟩
      · rw [runAll_cons_of_refused he, runAll_cons_of_refused (hstep.refusal?_eq.trans he)]
        exact ⟨.cons hstep.paired .nil, hstep.session, rfl⟩

end

/-! ## Programs read through -/

mutual

/-- The step over items that are read first: whatever condition it adds is
one of what is read, as `addVia` adds it. A leaf and a question have no such
step and become a look. -/
def via (read : α → β) : Step β → Step α
  | look | addLeaf _ | ask _ _ _ _ => .look
  | refuse cause => .refuse cause
  | add c => .add (c.via read)
  | and => .and
  | or => .or
  | group goesOn steps => .group goesOn (viaAll read steps)
  | attempt step => .attempt (step.via read)
  | keep name negated => .keep name negated
  | negateKept name => .negateKept name
  | addKept name => .addKept name
  | save name => .save name
  | load name => .load name

/-- The program over such items. -/
def viaAll (read : α → β) : List (Step β) → List (Step α)
  | [] => []
  | step :: rest => step.via read :: viaAll read rest

end

mutual

/-- The step adds no leaf and asks nothing, and no step inside it does. -/
def isPlain : Step α → Bool
  | addLeaf _ | ask _ _ _ _ => false
  | group _ steps => arePlain steps
  | attempt step => step.isPlain
  | _ => true

/-- None of the steps does. -/
def arePlain : List (Step α) → Bool
  | [] => true
  | step :: rest => step.isPlain && arePlain rest

end

theorem viaAll_eq_map (read : α → β) (steps : List (Step β)) :
    viaAll read steps = steps.map (via read) := by
  induction steps with
  | nil => rfl
  | cons step rest ih => rw [viaAll, ih, List.map_cons]

theorem arePlain_iff {steps : List (Step α)} :
    arePlain steps = true ↔ ∀ step ∈ steps, step.isPlain = true := by
  induction steps with
  | nil => simp [arePlain]
  | cons step rest ih => simp [arePlain, ih]

mutual

/-- **What reads through a step reads as the step**, which adds no leaf. -/
theorem reads_via (config : Config) (read : α → β) :
    ∀ step : Step β, step.isPlain = true → (step.via read).Reads config read step
  | .look, _ => .look
  | .refuse cause, _ => .refuse cause
  | .add c, _ => .add (c.reads_via read)
  | .addLeaf _, hplain | .ask _ _ _ _, hplain => by simp [isPlain] at hplain
  | .and, _ => .and
  | .or, _ => .or
  | .group goesOn steps, hplain => .group goesOn (readsAll_via config read steps hplain)
  | .attempt step, hplain => .attempt (reads_via config read step hplain)
  | .keep name negated, _ => .keep name negated
  | .negateKept name, _ => .negateKept name
  | .addKept name, _ => .addKept name
  | .save name, _ => .save name
  | .load name, _ => .load name

theorem readsAll_via (config : Config) (read : α → β) :
    ∀ steps : List (Step β), arePlain steps = true →
      List.Forall₂ (Reads config read) (viaAll read steps) steps
  | [], _ => .nil
  | step :: rest, hplain => by
      obtain ⟨hstep, hrest⟩ : step.isPlain = true ∧ arePlain rest = true := by
        simpa [arePlain] using hplain
      exact .cons (reads_via config read step hstep) (readsAll_via config read rest hrest)

end

/-- So the programs go through in step. -/
theorem runAll_via {config : Config} {s : Session α} {t : Session β}
    (h : s.InStep config read t) (goesOn : Bool) (steps : List (Step β))
    (hplain : arePlain steps = true) :
    (runAll goesOn s (viaAll read steps)).Reads read (runAll goesOn t steps) :=
  runAll_reads h goesOn (readsAll_via config read steps hplain)

/-- **A program may read its items first.** Whatever is read, the program
over what is read and the program over the items are refused at the same
steps for the same causes, inside groups too, and after every step their
filters have the same size, joins and compiled shapes, and their predicates
and negations say of an item what the others say of what is read off it. -/
theorem program_via (config : Config) (read : α → β) {steps : List (Step β)}
    (hplain : ∀ step ∈ steps, step.isPlain = true) :
    List.Forall₂ (Report.Paired (Report.Alike read))
      (program config (steps.map (via read))).reports (program config steps).reports := by
  rw [← viaAll_eq_map]
  exact (runAll_via (.ofConfig config) true steps (arePlain_iff.mpr hplain)).reports

/-- A group of alternatives about the length of a text, after a literal
that is refused. -/
theorem program_via_length :
    let short : Condition Nat := .ofTest (· < 3)
    let long : Condition Nat := .ofTest (9 < ·)
    let steps : List (Step Nat) :=
      [.add (.literal true), .group false [.add short, .or, .add long], .group false []]
    (∀ step ∈ steps, step.isPlain = true) ∧
      List.Forall₂ (Report.Paired (Report.Alike String.length))
        (program .standard (steps.map (via String.length))).reports
        (program .standard steps).reports := by
  intro short long steps
  have hplain : ∀ step ∈ steps, step.isPlain = true := by decide
  exact ⟨hplain, program_via .standard String.length hplain⟩

end Step

end Criteria
