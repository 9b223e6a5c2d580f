import Criteria.Proofs.Step.Run
/-!
# Filters — the normal form of what calls lead to

`build` folds a chain by the join that each record carries, and any of them
could be `or`. In a reachable filter only the first can, and the first
ties its condition to nothing: the next condition joins with `or` only
while a group is open, and then it goes into the group, or before there is
any chain. So the chain of a reachable filter is a conjunction, the group a
disjunction, and `verdict` says what they come to without reading a record's
join.
-/

namespace Criteria

namespace Filter

variable {α : Type} {config : Config} {f : Filter α} {c : Condition α}

/-- The normal form: `or` is at most the first record's, and in hand
without a group at most before the first record. -/
structure Normal (f : Filter α) : Prop where
  tail_and : ∀ record ∈ f.records.tail, record.2 = .and
  records_nil_of_or : f.next = .or → f.group = [] → f.records = []

/-! ## Every reachable filter is normal -/

theorem normal_ofConfig (config : Config) : (ofConfig config : Filter α).Normal :=
  ⟨by simp, fun _ _ => rfl⟩

/-- A condition that is pushed on a chain finds `and` in hand, unless the
chain is empty. -/
theorem Normal.push (h : f.Normal) (c : Condition α) : (f.push c).Normal := by
  by_cases hg : f.group = []
  · rw [push_of_group_nil hg]
    refine ⟨fun record hrecord => ?_, fun hnext => by cases hnext⟩
    rcases List.eq_nil_or_concat' f.records with hr | ⟨_, _, hr⟩
    · rw [hr] at hrecord; simp at hrecord
    · have hne : f.records ≠ [] := by rw [hr]; simp
      -- `or` in hand without a group would mean that there is no chain
      have hnext : f.next = .and := by
        cases hj : f.next with
        | and => rfl
        | or => exact absurd (h.records_nil_of_or hj hg) hne
      change record ∈ (f.records ++ [(c, f.next)]).tail at hrecord
      rw [List.tail_append_of_ne_nil hne, List.mem_append, List.mem_singleton] at hrecord
      rcases hrecord with htail | rfl
      · exact h.tail_and record htail
      · exact hnext
  · rw [push_of_group_ne_nil hg]
    exact ⟨h.tail_and, fun hnext => by cases hnext⟩

theorem Normal.and (h : f.Normal) : f.and.Normal :=
  ⟨h.tail_and, fun hnext => by cases hnext⟩

/-- With a chain, `or` shortens it and opens a group; without one there is
nothing to show. -/
theorem Normal.or (h : f.Normal) : f.or.Normal := by
  rcases f.records_cases with hr | ⟨records, c, j, hr⟩
  · rw [or_of_records_nil hr]
    exact ⟨h.tail_and, fun _ _ => hr⟩
  · rw [or_of_records_append hr]
    refine ⟨fun record hrecord => h.tail_and record ?_, fun _ hg => by cases hg⟩
    rw [hr]
    cases records with
    | nil => simp at hrecord
    | cons first rest => exact List.mem_append_left _ hrecord

/-- **Every reachable filter is normal.** -/
theorem normal_of_reachable (h : f.Reachable config) : f.Normal := by
  induction h with
  | empty => exact normal_ofConfig config
  | push c _ _ ih => exact ih.push c
  | and _ ih => exact ih.and
  | or _ ih => exact ih.or

/-! ## What a normal filter decides -/

/-- What a filter decides of an item when the joins of its records are left
unread: nothing held accepts everything, a chain wants all of its
conditions, a group one of its own, and the join in hand ties the two. -/
def verdict (f : Filter α) (r : Clock.Readings) (item : α) : Bool :=
  match f.records, f.group with
  | [], [] => true
  | records, [] => records.all fun (c, _) => c.holds r item
  | [], group => group.any fun c => c.holds r item
  | records, group =>
      f.next.decide (records.all fun (c, _) => c.holds r item) (group.any fun c => c.holds r item)

/-- Records that join with `and` add their conditions to the test so far. -/
theorem foldl_of_all_and {rest : List (Condition α × Join)}
    (h : ∀ record ∈ rest, record.2 = .and) (t : Clock.Readings → α → Bool)
    (r : Clock.Readings) (item : α) :
    rest.foldl (fun t (c, j) => j.combine t c.holds) t r item =
      (t r item && rest.all fun (c, _) => c.holds r item) := by
  induction rest generalizing t with
  | nil => simp
  | cons record rest ih =>
      obtain ⟨c, j⟩ := record
      obtain rfl : j = .and := h (c, j) (by simp)
      have hrest : ∀ record ∈ rest, record.2 = .and := fun record hr => h record (by simp [hr])
      simp only [List.foldl_cons, ih hrest, Join.combine_apply, Join.decide, List.all_cons,
        Bool.and_assoc]

/-- Alternatives add theirs. -/
theorem foldl_or (rest : List (Condition α)) (t : Clock.Readings → α → Bool)
    (r : Clock.Readings) (item : α) :
    rest.foldl (fun t c => Join.or.combine t c.holds) t r item =
      (t r item || rest.any fun c => c.holds r item) := by
  induction rest generalizing t with
  | nil => simp
  | cons c rest ih =>
      simp only [List.foldl_cons, ih, Join.combine_apply, Join.decide, List.any_cons,
        Bool.or_assoc]

/-- **A normal filter decides as its verdict says.** The fold over the
chain never meets `or`, since the record it starts from is the only one
that may carry it. -/
theorem Normal.test_build (h : f.Normal) (r : Clock.Readings) (item : α) :
    f.build.test r item = f.verdict r item := by
  obtain ⟨records, group, next, config⟩ := f
  rcases records with - | ⟨⟨c, j⟩, rest⟩ <;> rcases group with - | ⟨d, others⟩
  · rfl
  · exact foldl_or others d.holds r item
  · exact foldl_of_all_and h.tail_and c.holds r item
  · -- only here is the join in hand read: it ties the chain to the group
    have hchain := foldl_of_all_and h.tail_and c.holds r item
    have hgroup := foldl_or others d.holds r item
    exact (Join.combine_apply next _ _ r item).trans (congrArg₂ next.decide hchain hgroup)

/-! ## The joins of the records -/

/-- The filter with every record joined by `and`. -/
def untagged (f : Filter α) : Filter α :=
  { f with records := f.records.map fun (c, _) => (c, .and) }

theorem normal_untagged (h : f.Normal) : f.untagged.Normal := by
  refine ⟨fun record hrecord => ?_, fun hnext hg => ?_⟩
  · simp only [untagged, ← List.map_tail, List.mem_map] at hrecord
    obtain ⟨_, -, rfl⟩ := hrecord
    rfl
  · simp [untagged, h.records_nil_of_or hnext hg]

theorem verdict_untagged (f : Filter α) (r : Clock.Readings) (item : α) :
    f.untagged.verdict r item = f.verdict r item := by
  obtain ⟨records, group, next, config⟩ := f
  cases records <;> cases group <;> simp [untagged, verdict, Function.comp_def]

end Filter

namespace Step

variable {α : Type}

/-- **Whatever steps a program takes, its filter ends in normal form and
decides as its verdict says**, and no join that a record carries has a part
in it. -/
theorem program_normalForm (config : Config) (steps : List (Step α)) :
    let f := (program config steps).session.filter
    f.Normal ∧ (∀ r item, f.build.test r item = f.verdict r item) ∧
      ∀ r item, f.build.test r item = f.untagged.build.test r item := by
  intro f
  have hf : f.Normal := Filter.normal_of_reachable (program_reachable config steps)
  refine ⟨hf, hf.test_build, fun r item => ?_⟩
  rw [hf.test_build, (Filter.normal_untagged hf).test_build, Filter.verdict_untagged]

end Step

end Criteria
