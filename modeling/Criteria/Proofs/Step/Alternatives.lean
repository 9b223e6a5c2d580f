import Criteria.Proofs.Leaf.Accepted
import Criteria.Proofs.Step.Formula
/-!
# Programs — leaves as alternatives

With `or` after the first of some leaves all of them are alternatives: the
first is taken out of the chain into a group, and the others join it there.
No chain is left then, so a further `or` finds nothing to take and may stand
before a later leaf or not. On an empty filter such a program expresses that
one of the leaves accepts, as a row of leaves without `or` expresses that all
of them do.
-/

namespace Criteria

namespace Leaf

variable {α : Type} {config : Config} {leaf : Leaf α}

/-- The leaf is not refused, and stands for one condition. -/
def IsSingle (config : Config) (leaf : Leaf α) : Prop := ∃ c, leaf.conditions config = .ok [c]

/-- Of one condition it is the same that all hold and that one does. -/
theorem IsSingle.accepts_eq_any (h : leaf.IsSingle config) (r : Clock.Readings) (item : α) :
    accepts config [leaf] r item = (leaf.brings config).any fun c => c.holds r item := by
  obtain ⟨c, hc⟩ := h
  rw [accepts_of_ok hc, brings_of_ok hc, List.any_cons, List.any_nil, Bool.or_false]

end Leaf

namespace Filter

variable {α : Type} {f : Filter α}

/-- A group without a chain decides alone, and the join in hand ties it to
nothing. -/
theorem test_build_of_records_nil (hr : f.records = []) (hg : f.group ≠ []) (r : Clock.Readings)
    (item : α) : f.build.test r item = f.group.any fun c => c.holds r item := by
  obtain ⟨records, group, next, config⟩ := f
  obtain rfl : records = [] := hr
  cases group with
  | nil => exact absurd rfl hg
  | cons c others => exact foldl_or others c.holds r item

/-- There a condition after `or` goes where it goes without. -/
theorem push_or_of_records_nil (hr : f.records = []) (hg : f.group ≠ []) (c : Condition α) :
    f.or.push c = f.push c := by
  rw [or_of_records_nil hr, push_of_group_ne_nil hg]
  exact push_of_group_ne_nil hg

end Filter

theorem Report.smooth_done {α : Type} (s : Session α) : (Report.done s).Smooth := .mk (by simp)

/-- Nothing was refused, and the filter is left with these alternatives and
without a chain. -/
structure Trace.Offers {α : Type} (t : Trace α) (cs : List (Condition α)) : Prop where
  smooth : ∀ report ∈ t.reports, report.Smooth
  refusal?_eq_none : t.refusal? = none
  records_eq_nil : t.session.filter.records = []
  group_eq : t.session.filter.group = cs

/-- It expresses then that one of them holds. -/
theorem Trace.Offers.expresses {α : Type} {t : Trace α} {cs : List (Condition α)}
    (h : t.Offers cs) (hcs : cs ≠ []) :
    t.Expresses fun r item => cs.any fun c => c.holds r item := by
  have hopen : t.session.filter.group ≠ [] := by rwa [h.group_eq]
  refine ⟨h.smooth, h.refusal?_eq_none, ?_, fun r item => ?_⟩
  · rw [Filter.isEmpty, h.group_eq, List.isEmpty_eq_false_iff.mpr hcs, Bool.and_false]
  · rw [Filter.test_build_of_records_nil h.records_eq_nil hopen, h.group_eq]

namespace Step

variable {α : Type} {goesOn : Bool} {s : Session α} {step : Step α} {rest : List (Step α)}
  {cs : List (Condition α)} {c : Condition α} {leaf : Leaf α} {leaves : List (Leaf α)}

/-- Leaves that join an open group, with `or` again before each of them or
without. -/
def alternative (again : Bool) (leaf : Leaf α) : List (Step α) :=
  if again then [.or, .addLeaf leaf] else [.addLeaf leaf]

/-- Leaves as alternatives: `or` stands after the first, and before each of
the later ones again or not. -/
def alternatives (again : Bool) : List (Leaf α) → List (Step α)
  | [] => []
  | [leaf] => [.addLeaf leaf]
  | first :: second :: rest =>
      .addLeaf first :: .or :: .addLeaf second :: rest.flatMap (alternative again)

/-! ## Steps one by one -/

/-- A leaf of one condition pushes it. -/
theorem run_addLeaf (h : leaf.conditions s.filter.config = .ok [c]) :
    (addLeaf leaf).run s = .done { s with filter := s.filter.push c } := by
  rw [run, Filter.addLeaf_of_ok h]
  rfl

theorem smooth_addLeaf (h : leaf.conditions s.filter.config = .ok [c]) :
    ((addLeaf leaf).run s).Smooth := by
  rw [run_addLeaf h]
  exact Report.smooth_done _

theorem session_addLeaf (h : leaf.conditions s.filter.config = .ok [c]) :
    ((addLeaf leaf).run s).session = { s with filter := s.filter.push c } :=
  congrArg Report.session (run_addLeaf h)

theorem pushes_addLeaf (h : leaf.conditions s.filter.config = .ok [c]) :
    Pushes s (.addLeaf leaf) c.holds :=
  ⟨c, fun _ _ => rfl, smooth_addLeaf h, congrArg Session.filter (session_addLeaf h)⟩

/-- A smooth step may stand before a row that offers something. -/
theorem offers_cons (hstep : (step.run s).Smooth)
    (h : (runAll goesOn (step.run s).session rest).Offers cs) :
    (runAll goesOn s (step :: rest)).Offers cs := by
  rw [runAll_cons (Or.inr hstep.refusal?_eq_none)]
  exact ⟨List.forall_mem_cons.mpr ⟨hstep, h.smooth⟩, h.refusal?_eq_none, h.records_eq_nil,
    h.group_eq⟩

theorem offers_addLeaf_cons (hc : leaf.conditions s.filter.config = .ok [c])
    (h : (runAll goesOn { s with filter := s.filter.push c } rest).Offers cs) :
    (runAll goesOn s (.addLeaf leaf :: rest)).Offers cs := by
  refine offers_cons (smooth_addLeaf hc) ?_
  rw [session_addLeaf hc]
  exact h

theorem offers_or_cons (h : (runAll goesOn { s with filter := s.filter.or } rest).Offers cs) :
    (runAll goesOn s (.or :: rest)).Offers cs :=
  offers_cons (Report.smooth_done _) h

/-! ## Rows of alternatives -/

/-- **A group without a chain takes leaves as further alternatives**, whether
or not `or` is said again before them. -/
theorem offers_later (again : Bool) (hr : s.filter.records = []) (hg : s.filter.group ≠ [])
    (hone : ∀ leaf ∈ leaves, leaf.IsSingle s.filter.config) :
    (runAll goesOn s (leaves.flatMap (alternative again))).Offers
      (s.filter.group ++ leaves.flatMap (Leaf.brings s.filter.config)) := by
  induction leaves generalizing s with
  | nil => exact ⟨by simp [runAll], rfl, hr, (List.append_nil _).symm⟩
  | cons leaf rest ih =>
    obtain ⟨⟨c, hc⟩, hrest⟩ := List.forall_mem_cons.mp hone
    have hpush : s.filter.push c = { s.filter with group := s.filter.group ++ [c], next := .and } :=
      Filter.push_of_group_ne_nil hg
    have hrecords : (s.filter.push c).records = [] := by rw [hpush]; exact hr
    have hgroup : (s.filter.push c).group = s.filter.group ++ [c] := by rw [hpush]
    have hnext := ih (s := { s with filter := s.filter.push c }) hrecords
      (by rw [hgroup]; simp) (by rwa [Filter.push_config])
    rw [hgroup, Filter.push_config, List.append_assoc] at hnext
    rw [List.flatMap_cons, List.flatMap_cons, Leaf.brings_of_ok hc]
    cases again with
    | false => exact offers_addLeaf_cons hc hnext
    | true =>
      refine offers_or_cons (offers_addLeaf_cons (c := c) (by rwa [Filter.or_config]) ?_)
      rw [Filter.push_or_of_records_nil hr hg]
      exact hnext

/-- On an empty filter two leaves or more are offered. -/
theorem offers_alternatives {config : Config} (again : Bool) (hs : s.filter = .ofConfig config)
    {first second : Leaf α} (hone : ∀ leaf ∈ first :: second :: leaves, leaf.IsSingle config) :
    (runAll goesOn s (alternatives again (first :: second :: leaves))).Offers
      ((first :: second :: leaves).flatMap (Leaf.brings config)) := by
  obtain ⟨⟨c, hc⟩, hlater⟩ := List.forall_mem_cons.mp hone
  obtain ⟨⟨d, hd⟩, hrest⟩ := List.forall_mem_cons.mp hlater
  obtain ⟨filter, kept, saved⟩ := s
  obtain rfl : filter = .ofConfig config := hs
  rw [List.flatMap_cons, List.flatMap_cons, Leaf.brings_of_ok hc, Leaf.brings_of_ok hd]
  refine offers_addLeaf_cons hc (offers_or_cons (offers_addLeaf_cons (c := d) hd ?_))
  -- `or` has taken the first out of the chain, and the second stands behind it in the group
  exact offers_later (s := ⟨⟨[], [c, d], .and, config⟩, kept, saved⟩) again rfl
    (List.cons_ne_nil _ _) hrest

/-- **A program of alternatives expresses that one of them accepts.** -/
theorem expresses_alternatives {config : Config} (goesOn again : Bool)
    (hs : s.filter = .ofConfig config) (hleaves : leaves ≠ [])
    (hone : ∀ leaf ∈ leaves, leaf.IsSingle config) :
    (runAll goesOn s (alternatives again leaves)).Expresses fun r item =>
      leaves.any fun leaf => Leaf.accepts config [leaf] r item := by
  have hany (r : Clock.Readings) (item : α) :
      (leaves.any fun leaf => Leaf.accepts config [leaf] r item) =
        (leaves.flatMap (Leaf.brings config)).any fun c => c.holds r item := by
    rw [List.any_flatMap, Bool.eq_iff_iff, List.any_eq_true, List.any_eq_true]
    exact exists_congr fun leaf => and_congr_right fun hmem => by
      rw [(hone leaf hmem).accepts_eq_any]
  simp only [hany]
  match leaves, hleaves with
  | [leaf], _ =>
    -- there is nothing to join, so the leaf stays in the chain
    obtain ⟨c, hc⟩ := hone leaf (List.mem_singleton_self leaf)
    have hvalue : (fun r item => ([leaf].flatMap (Leaf.brings config)).any fun c => c.holds r item) =
        c.holds := by
      funext r item
      simp [Leaf.brings_of_ok hc]
    rw [hvalue]
    exact expresses_single hs (pushes_addLeaf (by rwa [hs]))
  | first :: second :: rest, _ =>
    obtain ⟨⟨c, hc⟩, -⟩ := List.forall_mem_cons.mp hone
    refine (offers_alternatives again hs hone).expresses ?_
    rw [List.flatMap_cons, Leaf.brings_of_ok hc]
    exact List.cons_ne_nil _ _

/-- So a filter of alternatives accepts what one of them accepts. -/
theorem test_alternatives (config : Config) (again : Bool) (hleaves : leaves ≠ [])
    (hone : ∀ leaf ∈ leaves, leaf.IsSingle config) (r : Clock.Readings) (item : α) :
    (program config (alternatives again leaves)).session.filter.build.test r item =
      leaves.any fun leaf => Leaf.accepts config [leaf] r item :=
  (expresses_alternatives true again rfl hleaves hone).test_build r item

end Step

end Criteria
