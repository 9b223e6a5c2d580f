import Criteria.Proofs.Filter.Basic
import Mathlib.Data.List.Forall2
/-!
# Filters — what is read off an item

A condition of one type of items reads as another does where it decides of
an item as the other decides of what is read off it, and is degenerate as
the other is. Two filters whose chains and groups read so, condition by
condition, stay alike under every call: they refuse the same, they have the
same size and joins, and what they compile to reads so again.
-/

namespace Criteria

variable {α β : Type} {read : α → β}

/-- A test decides of an item as another does of what is read off it. -/
def DecidesAs (read : α → β) (s : Clock.Readings → α → Bool) (t : Clock.Readings → β → Bool) :
    Prop :=
  ∀ r item, s r item = t r (read item)

theorem DecidesAs.combine {s s' : Clock.Readings → α → Bool} {t t' : Clock.Readings → β → Bool}
    (j : Join) (h : DecidesAs read s t) (h' : DecidesAs read s' t') :
    DecidesAs read (j.combine s s') (j.combine t t') := by
  intro r item
  rw [Join.combine_apply, Join.combine_apply, h r item, h' r item]

/-- A condition decides and is degenerate as another is of what is read off
the item. -/
structure Condition.Reads (read : α → β) (c : Condition α) (d : Condition β) : Prop where
  degeneracy?_eq : c.degeneracy? = d.degeneracy?
  holds : DecidesAs read c.holds d.holds

theorem Condition.reads_refl (c : Condition α) : c.Reads id c := ⟨rfl, fun _ _ => rfl⟩

/-- What reads an item reads as what it reads by. -/
theorem Condition.reads_via (read : α → β) (c : Condition β) : (c.via read).Reads read c :=
  ⟨rfl, fun _ _ => rfl⟩

/-- And so do the negations. -/
theorem Condition.Reads.not {c : Condition α} {d : Condition β} (h : c.Reads read d) :
    c.not.Reads read d.not :=
  ⟨rfl, fun r item => congrArg (!·) (h.holds r item)⟩

namespace Filter

/-- A record reads as another with the same join. -/
def RecordReads (read : α → β) (a : Condition α × Join) (b : Condition β × Join) : Prop :=
  a.1.Reads read b.1 ∧ a.2 = b.2

/-- The conditions of one filter read as those of the other, in the same
places and with the same joins. -/
structure Reads (read : α → β) (f : Filter α) (g : Filter β) : Prop where
  records : List.Forall₂ (RecordReads read) f.records g.records
  group : List.Forall₂ (Condition.Reads read) f.group g.group
  next_eq : f.next = g.next
  config_eq : f.config = g.config

/-- All that shows of a filter: how much it holds, how the next condition
joins, and the predicates it compiles to. -/
structure Alike (read : α → β) (f : Filter α) (g : Filter β) : Prop where
  size_eq : f.size = g.size
  hasOpenGroup_eq : f.hasOpenGroup = g.hasOpenGroup
  next_eq : f.next = g.next
  shape_build_eq : f.build.shape = g.build.shape
  shape_buildNegated_eq : f.buildNegated.shape = g.buildNegated.shape
  test_build : DecidesAs read f.build.test g.build.test
  test_buildNegated : DecidesAs read f.buildNegated.test g.buildNegated.test

/-- The outcomes of a call on each: both refused, for the same cause, or
neither. -/
structure Outcome.Reads (read : α → β) (o : Outcome α) (o' : Outcome β) : Prop where
  filter : o.filter.Reads read o'.filter
  refusal?_eq : o.refusal? = o'.refusal?

/-! ## Rows in step -/

/-- Two rows with a last entry each match if they do up to there and the
last entries do. -/
theorem forall₂_concat_iff {γ δ : Type} {R : γ → δ → Prop} {xs : List γ} {ys : List δ} {x : γ}
    {y : δ} :
    List.Forall₂ R (xs ++ [x]) (ys ++ [y]) ↔ List.Forall₂ R xs ys ∧ R x y := by
  rw [← List.forall₂_reverse_iff, List.reverse_concat, List.reverse_concat, List.forall₂_cons,
    List.forall₂_reverse_iff, and_comm]

/-- The rest of two chains adds to tests that decide alike. -/
theorem decidesAs_chain {s : Clock.Readings → α → Bool} {t : Clock.Readings → β → Bool}
    {rest : List (Condition α × Join)} {rest' : List (Condition β × Join)}
    (h : DecidesAs read s t) (hrest : List.Forall₂ (RecordReads read) rest rest') :
    DecidesAs read (rest.foldl (fun t (c, j) => j.combine t c.holds) s)
      (rest'.foldl (fun t (d, j) => j.combine t d.holds) t) := by
  refine List.rel_foldl (P := DecidesAs read) (R := RecordReads read) ?_ h hrest
  rintro s t ht ⟨c, j⟩ ⟨d, k⟩ ⟨hc, hj⟩
  obtain rfl : j = k := hj
  exact ht.combine j hc.holds

/-- So do the rest of two groups. -/
theorem decidesAs_alternatives {s : Clock.Readings → α → Bool} {t : Clock.Readings → β → Bool}
    {rest : List (Condition α)} {rest' : List (Condition β)} (h : DecidesAs read s t)
    (hrest : List.Forall₂ (Condition.Reads read) rest rest') :
    DecidesAs read (rest.foldl (fun t c => Join.or.combine t c.holds) s)
      (rest'.foldl (fun t d => Join.or.combine t d.holds) t) :=
  List.rel_foldl (P := DecidesAs read) (fun _ _ ht _ _ hcd => ht.combine .or hcd.holds) h hrest

namespace Reads

variable {f : Filter α} {g : Filter β} {c : Condition α} {d : Condition β}

theorem ofConfig (config : Config) : (Filter.ofConfig config).Reads read (Filter.ofConfig config) :=
  ⟨.nil, .nil, rfl, rfl⟩

/-- Groups are open together. -/
theorem group_nil_iff (h : f.Reads read g) : f.group = [] ↔ g.group = [] := by
  rw [← List.length_eq_zero_iff, h.group.length_eq, List.length_eq_zero_iff]

/-! ## Calls -/

theorem objection?_eq (h : f.Reads read g) (hc : c.Reads read d) :
    f.objection? c = g.objection? d := by
  rw [objection?, objection?, h.config_eq, hc.degeneracy?_eq]

theorem push (h : f.Reads read g) (hc : c.Reads read d) : (f.push c).Reads read (g.push d) := by
  by_cases hg : g.group = []
  · have hf : f.group = [] := h.group_nil_iff.mpr hg
    rw [push_of_group_nil hf, push_of_group_nil hg]
    exact ⟨forall₂_concat_iff.mpr ⟨h.records, hc, h.next_eq⟩, h.group, rfl, h.config_eq⟩
  · have hf : f.group ≠ [] := fun hf => hg (h.group_nil_iff.mp hf)
    rw [push_of_group_ne_nil hf, push_of_group_ne_nil hg]
    exact ⟨h.records, forall₂_concat_iff.mpr ⟨h.group, hc⟩, rfl, h.config_eq⟩

theorem and (h : f.Reads read g) : f.and.Reads read g.and :=
  ⟨h.records, .nil, rfl, h.config_eq⟩

/-- `or` finds a chain in both or in neither, and takes conditions that read
alike from the two ends. -/
theorem or (h : f.Reads read g) : f.or.Reads read g.or := by
  have hrecords := h.records
  rcases f.records_cases with hf | ⟨records, c, j, hf⟩ <;>
    rcases g.records_cases with hg | ⟨records', d, k, hg⟩ <;> rw [hf, hg] at hrecords
  · rw [or_of_records_nil hf, or_of_records_nil hg]
    exact ⟨h.records, h.group, rfl, h.config_eq⟩
  -- one chain empty and the other not: their lengths would differ
  · simpa using hrecords.length_eq
  · simpa using hrecords.length_eq
  · obtain ⟨hrest, hlast, -⟩ := forall₂_concat_iff.mp hrecords
    rw [or_of_records_append hf, or_of_records_append hg]
    exact ⟨hrest, .cons hlast .nil, rfl, h.config_eq⟩

/-- **A condition that reads as the other's is refused as it is, or
pushed as it is.** -/
theorem add (h : f.Reads read g) (hc : c.Reads read d) : (f.add c).Reads read (g.add d) := by
  have hobjection := h.objection?_eq hc
  rcases f.add_cases c with ⟨e, he, hadd⟩ | ⟨hno, hadd⟩
  · rw [hadd, Filter.add, ← hobjection, he]
    exact ⟨h, rfl⟩
  · rw [hadd, add_of_objection?_none (hobjection ▸ hno)]
    exact ⟨h.push hc, rfl⟩

/-- So is a row of them, up to the same place. -/
theorem addAll {cs : List (Condition α)} {ds : List (Condition β)} (h : f.Reads read g)
    (hcs : List.Forall₂ (Condition.Reads read) cs ds) : (f.addAll cs).Reads read (g.addAll ds) := by
  induction hcs generalizing f g with
  | nil => exact ⟨h, rfl⟩
  | @cons c d cs ds hc _ ih =>
      have hadd := h.add hc
      rw [Filter.addAll, Filter.addAll, ← hadd.refusal?_eq]
      rcases (f.add c).refusal? with - | e
      · exact ih hadd.filter
      · exact ⟨hadd.filter, rfl⟩

/-! ## What the filters compile to -/

theorem isEmpty_eq (h : f.Reads read g) : f.isEmpty = g.isEmpty := by
  rw [Bool.eq_iff_iff]
  simp [Filter.isEmpty, ← List.length_eq_zero_iff, h.records.length_eq, h.group.length_eq]

/-- **The tests that they compile to decide alike.** The folds over the two
chains, and over the two groups, go through in step. -/
theorem test_build (h : f.Reads read g) : DecidesAs read f.build.test g.build.test := by
  obtain ⟨records, group, next, config⟩ := f
  obtain ⟨records', group', next', config'⟩ := g
  obtain ⟨hrecords, hgroup, rfl, rfl⟩ := h
  -- a fold starts from the first test of its row, so each row is empty or has one
  cases hrecords with
  | nil =>
      cases hgroup with
      | nil => exact fun _ _ => rfl
      | cons hd hothers => exact decidesAs_alternatives hd.holds hothers
  | cons hc hrest =>
      cases hgroup with
      | nil => exact decidesAs_chain hc.1.holds hrest
      | cons hd hothers =>
          exact (decidesAs_chain hc.1.holds hrest).combine _
            (decidesAs_alternatives hd.holds hothers)

/-- So what they compile to reads alike. -/
theorem build (h : f.Reads read g) : f.build.toCondition.Reads read g.build.toCondition := by
  refine ⟨?_, h.test_build⟩
  rw [degeneracy?_build, degeneracy?_build, h.isEmpty_eq]

/-- **Nothing that shows tells the two filters apart.** -/
theorem alike (h : f.Reads read g) : f.Alike read g where
  size_eq := by rw [size, size, h.records.length_eq, h.group.length_eq]
  hasOpenGroup_eq := by
    rw [hasOpenGroup, hasOpenGroup, Bool.eq_iff_iff]
    simp [h.group_nil_iff]
  next_eq := h.next_eq
  shape_build_eq := by rw [shape_build, shape_build, h.isEmpty_eq]
  shape_buildNegated_eq := rfl
  test_build := h.test_build
  test_buildNegated := h.build.not.holds

/-- A group comes to the same in both. -/
theorem close (h : f.Reads read g) {inner : Outcome α} {inner' : Outcome β}
    (hinner : inner.Reads read inner') : (f.close inner).Reads read (g.close inner') := by
  rcases he : inner.refusal? with - | e
  · have he' : inner'.refusal? = none := by rw [← hinner.refusal?_eq, he]
    simp only [Filter.close, he, he']
    exact h.add hinner.filter.build
  · have he' : inner'.refusal? = some e := by rw [← hinner.refusal?_eq, he]
    simp only [Filter.close, he, he']
    exact ⟨h, rfl⟩

end Reads

end Filter

end Criteria
