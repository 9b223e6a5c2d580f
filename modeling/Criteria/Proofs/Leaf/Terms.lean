import Criteria.Proofs.Leaf.Accepted
/-!
# Leaves — the search of several texts

The leaf stands for one condition a text, and these go into the filter one
by one. On a chain that is the same as one condition that wants a term in
each of the texts, since a chain wants all of its conditions. In an open
group every condition becomes an alternative of its own, so there the leaf
wants a term in one text only.
-/

namespace Criteria

/-- A text has no words where it has nothing but white space. -/
theorem Text.words_eq_nil_iff {s : List Char} : words s = [] ↔ isBlank s = true := by
  induction s with
  | nil => decide
  | cons c rest ih =>
      rw [words, pieces, isBlank, List.all_cons]
      cases hspace : Unicode.isWhiteSpace c with
      | true => exact ih
      | false => cases pieces rest <;> simp

namespace Guard

variable {name value : String}

theorem ensureNotBlank_of_blank (h : Text.isBlank value.toList = true) :
    ensureNotBlank name value = .error (.invalidArgument name "must not be blank") := by
  rw [ensureNotBlank, if_pos h]

theorem ensureNotBlank_of_not_blank (h : Text.isBlank value.toList = false) :
    ensureNotBlank name value = .ok () := by
  rw [ensureNotBlank, if_neg (by simp [h])]

end Guard

namespace Leaf

variable {α : Type}

/-- Each of the texts has one of the terms: one condition. -/
def everyText (config : Config) (terms : String) (reads : List (α → String)) : Condition α :=
  .ofTest fun item => reads.all fun read =>
    hasTerm config.ignoreCase (Text.words terms.toList) (read item)

/-- One of the texts has one of the terms. -/
def someText (config : Config) (terms : String) (reads : List (α → String)) : Condition α :=
  .ofTest fun item => reads.any fun read =>
    hasTerm config.ignoreCase (Text.words terms.toList) (read item)

/-- The conditions of the leaf, one a text. -/
def eachText (config : Config) (terms : String) (reads : List (α → String)) : List (Condition α) :=
  reads.map (Condition.ofTest (hasTerm config.ignoreCase (Text.words terms.toList))).via

variable {config : Config} {terms : String} {reads : List (α → String)}

/-- With a term to look for and a text to look in, the leaf has nothing
wrong. -/
theorem conditions_anyTerm (config : Config) (hterms : Text.isBlank terms.toList = false)
    (hreads : reads ≠ []) :
    (anyTerm terms reads).conditions config = .ok (eachText config terms reads) := by
  have hsome : reads.isEmpty = false := by simpa using hreads
  rw [conditions, Guard.ensureNotBlank_of_not_blank hterms, hsome]
  rfl

/-- Its terms are looked at first. -/
theorem conditions_anyTerm_blank (config : Config) (hterms : Text.isBlank terms.toList = true) :
    (anyTerm terms reads).conditions config =
      .error (.invalidArgument "terms" "must not be blank") := by
  rw [conditions, Guard.ensureNotBlank_of_blank hterms]
  rfl

theorem conditions_anyTerm_nil (config : Config) (hterms : Text.isBlank terms.toList = false) :
    (anyTerm terms ([] : List (α → String))).conditions config =
      .error (.invalidArgument "accessors" "at least one is required") := by
  rw [conditions, Guard.ensureNotBlank_of_not_blank hterms]
  rfl

/-- All of its conditions hold where each text has a term. -/
theorem all_eachText (r : Clock.Readings) (item : α) :
    (eachText config terms reads).all (fun c => c.holds r item) =
      (everyText config terms reads).holds r item := by
  rw [eachText, List.all_map]
  rfl

/-- And one of them where one text does. -/
theorem any_eachText (r : Clock.Readings) (item : α) :
    (eachText config terms reads).any (fun c => c.holds r item) =
      (someText config terms reads).holds r item := by
  rw [eachText, List.any_map]
  rfl

/-- A filter of nothing but the leaf accepts where each text has a term. With
no term to look for the leaf is refused, and its filter accepts all. -/
theorem accepts_anyTerm (config : Config) (terms : String) (reads : List (α → String))
    (r : Clock.Readings) (item : α) :
    accepts config [.anyTerm terms reads] r item =
      (Text.isBlank terms.toList || (everyText config terms reads).holds r item) := by
  rw [accepts_eq, List.all_cons, List.all_nil, Bool.and_true]
  cases hterms : Text.isBlank terms.toList with
  | true =>
      rw [brings_of_error (conditions_anyTerm_blank config hterms)]
      rfl
  | false =>
      rw [Bool.false_or]
      by_cases hreads : reads = []
      · subst hreads
        rw [brings_of_error (conditions_anyTerm_nil config hterms)]
        rfl
      · rw [brings_of_ok (conditions_anyTerm config hterms hreads), all_eachText]

end Leaf

namespace Filter

variable {α : Type} {f : Filter α} {cs : List (Condition α)} {c : Condition α}

/-- On a chain without a group a row of conditions is one condition that
holds where all of them do. -/
theorem Normal.test_build_pushAll_eq_push (hf : f.Normal) (hg : f.group = [])
    (hc : ∀ r item, (cs.all fun d => d.holds r item) = c.holds r item) (r : Clock.Readings)
    (item : α) : (f.pushAll cs).build.test r item = (f.push c).build.test r item := by
  change (f.pushAll cs).build.test r item = (f.pushAll [c]).build.test r item
  rw [hf.test_build_pushAll hg, hf.test_build_pushAll hg, List.all_append, List.all_append, hc]
  simp

/-- In an open group it is one that holds where one of them does. -/
theorem Normal.test_build_pushAll_group_eq_push (hf : f.Normal) (hg : f.group ≠ [])
    (hcs : cs ≠ []) (hc : ∀ r item, (cs.any fun d => d.holds r item) = c.holds r item)
    (r : Clock.Readings) (item : α) :
    (f.pushAll cs).build.test r item = (f.push c).build.test r item := by
  change (f.pushAll cs).build.test r item = (f.pushAll [c]).build.test r item
  rw [hf.test_build_pushAll_group hg hcs, hf.test_build_pushAll_group hg (List.cons_ne_nil c []),
    List.any_append, List.any_append, hc]
  simp

end Filter

namespace Step

variable {α : Type}

/-- **What the search of several texts binds to, from any point of a
program.** With a term to look for and a text to look in it is not refused.
Where no group is open, the filter then accepts what it would accept with
one condition more, that each of the texts has a term. Where one is open,
the one condition more is that some text has a term. -/
theorem program_anyTerm (config : Config) (steps : List (Step α)) {terms : String}
    {reads : List (α → String)} (hterms : Text.isBlank terms.toList = false)
    (hreads : reads ≠ []) :
    let f := (program config steps).session.filter
    let o := f.addLeaf (.anyTerm terms reads)
    o.refusal? = none ∧
      (f.hasOpenGroup = false → ∀ r item, o.filter.build.test r item =
        (f.add (Leaf.everyText config terms reads)).filter.build.test r item) ∧
      (f.hasOpenGroup = true → ∀ r item, o.filter.build.test r item =
        (f.add (Leaf.someText config terms reads)).filter.build.test r item) := by
  intro f o
  have hreachable : f.Reachable config := program_reachable config steps
  have hf : f.Normal := Filter.normal_of_reachable hreachable
  have ho : o = ⟨f.pushAll (Leaf.eachText config terms reads), none⟩ := by
    refine Filter.addLeaf_of_ok ?_
    rw [hreachable.config_eq]
    exact Leaf.conditions_anyTerm config hterms hreads
  refine ⟨by rw [ho], fun hclosed r item => ?_, fun hopen r item => ?_⟩
  -- the chain wants all conditions that are pushed, the group one of them
  · have hg : f.group = [] := by simpa [Filter.hasOpenGroup] using hclosed
    have hadd := f.add_of_discerning (c := Leaf.everyText config terms reads) rfl
    rw [ho, hadd]
    exact hf.test_build_pushAll_eq_push hg Leaf.all_eachText r item
  · have hg : f.group ≠ [] := by simpa [Filter.hasOpenGroup] using hopen
    have hadd := f.add_of_discerning (c := Leaf.someText config terms reads) rfl
    have hsome : Leaf.eachText config terms reads ≠ [] := by simpa [Leaf.eachText] using hreads
    rw [ho, hadd]
    exact hf.test_build_pushAll_group_eq_push hg hsome Leaf.any_eachText r item

/-- In a group that `or` has opened, over two texts. -/
theorem program_anyTerm_pair :
    let steps : List (Step (String × String)) := [.add (.ofTest fun item => item.1 == "z"), .or]
    let reads : List (String × String → String) := [Prod.fst, Prod.snd]
    let f := (program .standard steps).session.filter
    let o := f.addLeaf (.anyTerm "x y" reads)
    (Text.isBlank "x y".toList = false ∧ reads ≠ []) ∧ f.hasOpenGroup = true ∧
      o.refusal? = none ∧ ∀ r item, o.filter.build.test r item =
        (f.add (Leaf.someText .standard "x y" reads)).filter.build.test r item := by
  intro steps reads f o
  have hterms : Text.isBlank "x y".toList = false := by decide
  have hreads : reads ≠ [] := by simp [reads]
  obtain ⟨hnone, -, hopen⟩ := program_anyTerm .standard steps hterms hreads
  exact ⟨⟨hterms, hreads⟩, rfl, hnone, hopen rfl⟩

/-- **There the leaf does not want a term in each of the texts**: it accepts
a pair of which only the first text has one. -/
theorem program_anyTerm_ne_everyText :
    let steps : List (Step (String × String)) := [.add (.ofTest fun item => item.1 == "z"), .or]
    let reads : List (String × String → String) := [Prod.fst, Prod.snd]
    let f := (program .standard steps).session.filter
    let r : Clock.Readings := ⟨.epoch, .epoch⟩
    (f.addLeaf (.anyTerm "x" reads)).refusal? = none ∧
      (f.addLeaf (.anyTerm "x" reads)).filter.build.test r ("x", "y") = true ∧
      (f.add (Leaf.everyText .standard "x" reads)).filter.build.test r ("x", "y") = false := by
  decide

end Step

end Criteria
