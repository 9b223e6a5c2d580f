import Criteria.Proofs.Leaf.IgnoringCase
import Criteria.Proofs.Step.Alternatives
import Criteria.Proofs.Step.Reading
import Criteria.Proofs.Step.Refused
import Criteria.Proofs.Text.Words
/-!
# Programs — one text searched for several terms

The search of one text for some terms says the same as a group in which the
text is searched for each of the terms, these being alternatives. The one
adds a test and the other a combination, but nothing that shows of a filter
tells them apart, and neither does any program that follows. What the terms
are is a matter of their words alone: not of their order, nor of how often one
of them is given or how much white space stands between them.
-/

namespace Criteria

/-! ## What reads as itself -/

theorem Filter.reads_refl {α : Type} (f : Filter α) : f.Reads id f :=
  ⟨List.forall₂_same.mpr fun record _ => ⟨record.1.reads_refl, rfl⟩,
    List.forall₂_same.mpr fun c _ => c.reads_refl, rfl, rfl⟩

theorem Session.reads_refl {α : Type} (s : Session α) : s.Reads id s :=
  ⟨s.filter.reads_refl, List.forall₂_same.mpr fun entry _ => ⟨rfl, entry.2.toCondition.reads_refl⟩,
    List.forall₂_same.mpr fun entry _ => ⟨rfl, entry.2.reads_refl⟩⟩

namespace Leaf

variable {α : Type} {config : Config} {terms others : String}

/-! ## Terms by their words -/

/-- Which words there are decides what is found. -/
theorem hasTerm_congr {words words' : List (List Char)} (h : ∀ w, w ∈ words' ↔ w ∈ words)
    (ignoreCase : Bool) : hasTerm ignoreCase words' = hasTerm ignoreCase words := by
  funext s
  rw [hasTerm, hasTerm, Bool.eq_iff_iff, List.any_eq_true, List.any_eq_true]
  exact exists_congr fun w => and_congr_left' (h w)

/-- Terms with the same words make the same search, or are refused alike. -/
theorem conditions_anyTerm_congr
    (h : ∀ w, w ∈ Text.words others.toList ↔ w ∈ Text.words terms.toList)
    (reads : List (α → String)) (config : Config) :
    (anyTerm others reads).conditions config = (anyTerm terms reads).conditions config := by
  have hnil : Text.words others.toList = [] ↔ Text.words terms.toList = [] := by
    simp only [List.eq_nil_iff_forall_not_mem, h]
  have hblank : Text.isBlank others.toList = Text.isBlank terms.toList := by
    rw [Bool.eq_iff_iff, ← Text.words_eq_nil_iff, ← Text.words_eq_nil_iff, hnil]
  cases hterms : Text.isBlank terms.toList with
  | true => rw [conditions_anyTerm_blank config (hblank.trans hterms),
      conditions_anyTerm_blank config hterms]
  | false =>
    by_cases hreads : reads = []
    · subst hreads
      rw [conditions_anyTerm_nil config (hblank.trans hterms), conditions_anyTerm_nil config hterms]
    · rw [conditions_anyTerm config (hblank.trans hterms) hreads,
        conditions_anyTerm config hterms hreads, eachText, eachText, hasTerm_congr h]

/-! ## One search for each word -/

/-- The searches of a text for each of some words. -/
def searches (read : α → String) (words : List (List Char)) : List (Leaf α) :=
  words.map fun word => .text read (.contains (String.ofList word))

theorem isSingle_of_mem_searches {read : α → String} {words : List (List Char)} {leaf : Leaf α}
    (h : leaf ∈ searches read words) : leaf.IsSingle config := by
  obtain ⟨word, -, rfl⟩ := List.mem_map.mp h
  exact ⟨_, rfl⟩

/-- One of them accepts where one of the words is found. -/
theorem any_searches (config : Config) (read : α → String) (words : List (List Char))
    (r : Clock.Readings) (item : α) :
    ((searches read words).any fun leaf => accepts config [leaf] r item) =
      hasTerm config.ignoreCase words (read item) := by
  simp only [searches, List.any_map, Function.comp_def, accepts_contains, String.toList_ofList]
  rfl

end Leaf

namespace Step

variable {α : Type} {s : Session α} {terms : String} {read : α → String} {goesOn : Bool}
  {words : List (List Char)} {a b : Step α} {steps : List (Step α)} {leaf : Leaf α}
  {c : Condition α} {value : Clock.Readings → α → Bool}

/-! ## Steps that append one condition -/

/-- The step pushes one condition, which decides by the value and is not
degenerate, and changes nothing else in the session. Nothing is refused. -/
def Appends (s : Session α) (step : Step α) (value : Clock.Readings → α → Bool) : Prop :=
  ∃ c : Condition α, c.degeneracy? = none ∧ (∀ r item, c.holds r item = value r item) ∧
    (step.run s).Smooth ∧ (step.run s).session = { s with filter := s.filter.push c }

theorem Appends.smooth (h : Appends s a value) : (a.run s).Smooth := by
  obtain ⟨-, -, -, hsmooth, -⟩ := h
  exact hsmooth

/-- A leaf of one condition appends it. -/
theorem appends_addLeaf (h : leaf.conditions s.filter.config = .ok [c])
    (hc : c.degeneracy? = none) : Appends s (.addLeaf leaf) c.holds :=
  ⟨c, hc, fun _ _ => rfl, smooth_addLeaf h, session_addLeaf h⟩

/-- **So does a group what its steps express**, if they keep nothing under a
name. -/
theorem appends_group (hinner : (runAll goesOn s.inside steps).Expresses value)
    (hkeep : keepNothing steps = true) : Appends s (.group goesOn steps) value := by
  have hdiscerning := Filter.discerning_build hinner.isEmpty_eq_false
  have hsession := session_runAll_of_keepNothing goesOn s.inside steps hkeep
  have hrun := run_group hinner.refusal?_eq_none
    (Filter.objection?_of_discerning s.filter hdiscerning)
  refine ⟨_, hdiscerning, hinner.test_build, ?_, ?_⟩
  · rw [hrun]
    exact .mk hinner.smooth
  · rw [hrun, Report.session_mk, hsession]
    rfl

/-- **Two such steps lead to sessions that read alike**: the conditions that
they push do. -/
theorem reads_of_appends (ha : Appends s a value) (hb : Appends s b value) :
    (a.run s).session.Reads id (b.run s).session := by
  obtain ⟨c, hc, hholds, -, hsession⟩ := ha
  obtain ⟨d, hd, hholds', -, hsession'⟩ := hb
  have hcd : c.Reads id d :=
    ⟨hc.trans hd.symm, fun r item => (hholds r item).trans (hholds' r item).symm⟩
  rw [hsession, hsession']
  exact s.reads_refl.withFilter (s.filter.reads_refl.push hcd)

/-- So nothing tells them apart, then or after any steps that follow. -/
theorem alike_of_appends {config : Config} (hs : s.Reachable config) (ha : Appends s a value)
    (hb : Appends s b value) :
    (a.run s).Alike id (b.run s) ∧ ∀ goesOn (more : List (Step α)),
      (runAll goesOn (a.run s).session more).Reads id (runAll goesOn (b.run s).session more) := by
  have hreads := reads_of_appends ha hb
  refine ⟨⟨?_, hreads.filter.alike⟩, fun goesOn more => ?_⟩
  · rw [ha.smooth.refusal?_eq_none, hb.smooth.refusal?_eq_none]
  · exact runAll_reads ⟨run_reachable hs a, hreads⟩ goesOn (readsAll_refl config more)

/-! ## The search and the group -/

/-- The search of one text is such a step. -/
theorem appends_anyTerm (s : Session α) (read : α → String)
    (hterms : Text.isBlank terms.toList = false) :
    Appends s (.addLeaf (.anyTerm terms [read])) fun _ item =>
      Leaf.hasTerm s.filter.config.ignoreCase (Text.words terms.toList) (read item) := by
  let found := Leaf.hasTerm s.filter.config.ignoreCase (Text.words terms.toList)
  have hconditions : (Leaf.anyTerm terms [read]).conditions s.filter.config =
      .ok [(Condition.ofTest found).via read] :=
    Leaf.conditions_anyTerm s.filter.config hterms (List.cons_ne_nil read [])
  exact appends_addLeaf hconditions rfl

/-- With white space for terms it is refused. -/
theorem isSome_refusal?_anyTerm (s : Session α) (terms : String) (read : α → String) :
    ((addLeaf (.anyTerm terms [read])).run s).refusal?.isSome = Text.isBlank terms.toList := by
  cases hterms : Text.isBlank terms.toList with
  | true =>
    have hconditions : (Leaf.anyTerm terms [read]).conditions s.filter.config = .error _ :=
      Leaf.conditions_anyTerm_blank s.filter.config hterms
    rw [run, Filter.addLeaf_of_error hconditions]
    rfl
  | false =>
    rw [(appends_anyTerm s read hterms).smooth.refusal?_eq_none]
    rfl

/-- Terms that are written with the same words do the same. -/
theorem addLeaf_anyTerm_congr {others : String}
    (hothers : Text.Spaced words others.toList)
    (hsame : ∀ word, word ∈ words ↔ word ∈ Text.words terms.toList) (f : Filter α)
    (reads : List (α → String)) :
    f.addLeaf (.anyTerm others reads) = f.addLeaf (.anyTerm terms reads) := by
  rw [← Text.words_of_spaced hothers] at hsame
  rw [Filter.addLeaf, Filter.addLeaf, Leaf.conditions_anyTerm_congr hsame reads f.config]

/-- Alternatives keep nothing under a name. -/
theorem keepNothing_alternatives (again : Bool) (leaves : List (Leaf α)) :
    keepNothing (alternatives again leaves) = true := by
  rw [keepNothing_iff]
  match leaves with
  | [] => simp [alternatives]
  | [leaf] => simp [alternatives, keepsNothing]
  | first :: second :: rest =>
    have hlater (leaf : Leaf α) : ∀ step ∈ alternative again leaf, step.keepsNothing = true := by
      cases again <;> simp [alternative, keepsNothing]
    simp only [alternatives, List.forall_mem_cons, keepsNothing, true_and]
    intro step hstep
    obtain ⟨leaf, -, hmem⟩ := List.mem_flatMap.mp hstep
    exact hlater leaf step hmem

/-- **So is the group of the searches for each of the words.** -/
theorem appends_group_searches (s : Session α) (goesOn again : Bool) (read : α → String)
    (hwords : words ≠ []) :
    Appends s (.group goesOn (alternatives again (Leaf.searches read words))) fun _ item =>
      Leaf.hasTerm s.filter.config.ignoreCase words (read item) := by
  have hleaves : Leaf.searches read words ≠ [] := by simpa [Leaf.searches] using hwords
  have hempty : s.inside.filter = .ofConfig s.filter.config := rfl
  have hinner := expresses_alternatives goesOn again hempty hleaves
    fun leaf hleaf => Leaf.isSingle_of_mem_searches hleaf
  simp only [Leaf.any_searches] at hinner
  exact appends_group hinner (keepNothing_alternatives again (Leaf.searches read words))

/-- **To search one text for some terms is to search it for one of them.**
From any point of a program the search is refused exactly if its terms are
nothing but white space, so that trimming leaves nothing of them. Otherwise
there are words, each of them with something in it and all of them as the
terms have them written, and the search does what a group does in which the
searches for each word are alternatives: nothing is refused, and nothing that
shows of the filter tells the two apart, nor does any program that follows.
Terms that are written with the same words, in any order, any number of times
and any white space between them, do the same. -/
theorem program_anyTerm_alternatives (config : Config) (steps : List (Step α)) (terms : String)
    (read : α → String) :
    let s := (program config steps).session
    let words := Text.words terms.toList
    let search : Step α := .addLeaf (.anyTerm terms [read])
    ((search.run s).refusal?.isSome = true ↔ ∀ c ∈ terms.toList, Unicode.isWhiteSpace c = true) ∧
      (Text.trim terms.toList = [] ↔ ∀ c ∈ terms.toList, Unicode.isWhiteSpace c = true) ∧
      ((search.run s).refusal? = none →
        Text.Spaced words terms.toList ∧ words ≠ [] ∧ (∀ word ∈ words, word ≠ []) ∧
        ∀ goesOn again,
          let grouped : Step α := .group goesOn (alternatives again (Leaf.searches read words))
          (grouped.run s).Smooth ∧ (search.run s).Alike id (grouped.run s) ∧
            ∀ goesOn' (more : List (Step α)),
              (runAll goesOn' (search.run s).session more).Reads id
                (runAll goesOn' (grouped.run s).session more)) ∧
      ∀ (others : String) (words' : List (List Char)), Text.Spaced words' others.toList →
        (∀ word, word ∈ words' ↔ word ∈ words) → ∀ reads : List (α → String),
          s.filter.addLeaf (.anyTerm others reads) = s.filter.addLeaf (.anyTerm terms reads) := by
  intro s words search
  have hs : s.Reachable config := runAll_reachable (.ofConfig config) true steps
  have hblank : Text.isBlank terms.toList = true ↔
      ∀ c ∈ terms.toList, Unicode.isWhiteSpace c = true := List.all_eq_true
  have hspaced : Text.Spaced words terms.toList := Text.spaced_words terms.toList
  have hrefused : (search.run s).refusal?.isSome = Text.isBlank terms.toList :=
    isSome_refusal?_anyTerm s terms read
  refine ⟨by rw [hrefused, hblank], by rw [Text.trim_eq_nil_iff, hblank], fun hnone => ?_,
    fun others words' hothers hsame => addLeaf_anyTerm_congr hothers hsame s.filter⟩
  have hterms : Text.isBlank terms.toList = false := by rw [← hrefused, hnone]; rfl
  have hwords : words ≠ [] := fun hnil => by
    rw [Text.words_eq_nil_iff.mp hnil] at hterms
    cases hterms
  refine ⟨hspaced, hwords, fun word hword => (hspaced.of_mem hword).1, fun goesOn again => ?_⟩
  have hsearch := appends_anyTerm s read hterms
  have hgrouped := appends_group_searches s goesOn again read hwords
  exact ⟨hgrouped.smooth, alike_of_appends hs hsearch hgrouped⟩

end Step

end Criteria
