import Criteria.Proofs.Leaf.Terms
import Criteria.Proofs.Text.Lower
/-!
# Leaves — searches of text that look past case

A search under a configuration that looks past case is a search among lower
case texts, and it need not find all that the search for the very characters
finds: the two texts go to lower case apart from each other, and a capital
sigma of the needle may take another form in the text that it stands in. A
search loses no match exactly if its needle is steady.
-/

namespace Criteria

namespace Leaf

variable {α : Type} {needle terms : String} {words : List (List Char)}

/-- Looking past case, filters of nothing but the leaf accept all that they
accept where case counts. -/
def KeepsMatches (leaf : Leaf α) : Prop :=
  ∀ exact loose : Config, exact.ignoreCase = false → loose.ignoreCase = true →
    ∀ r item, accepts exact [leaf] r item = true → accepts loose [leaf] r item = true

/-- A filter of one search accepts what the needle is found in. -/
theorem accepts_contains (config : Config) (read : α → String) (needle : String)
    (r : Clock.Readings) (item : α) :
    accepts config [.text read (.contains needle)] r item =
      Text.occursUnder config.ignoreCase needle.toList (read item).toList := by
  rw [accepts_text rfl]

/-- To look for one word in one text is to search that text for it. -/
theorem accepts_anyTerm_word (config : Config) {word : List Char}
    (hword : Text.words terms.toList = [word]) (read : α → String) (r : Clock.Readings) (item : α) :
    accepts config [.anyTerm terms [read]] r item =
      accepts config [.text read (.contains (String.ofList word))] r item := by
  have hterms : Text.isBlank terms.toList = false := by
    rw [← Bool.not_eq_true, ← Text.words_eq_nil_iff, hword]
    exact List.cons_ne_nil word []
  have hone : (everyText config terms [read]).holds r item =
      (hasTerm config.ignoreCase [word] (read item) && true) := by
    rw [← hword]
    rfl
  rw [accepts_anyTerm, hterms, Bool.false_or, hone, Bool.and_true, accepts_contains,
    String.toList_ofList]
  exact Bool.or_false _

theorem keepsMatches_anyTerm_word_iff {word : List Char}
    (hword : Text.words terms.toList = [word]) (read : α → String) :
    KeepsMatches (.anyTerm terms [read]) ↔
      KeepsMatches (.text read (.contains (String.ofList word))) := by
  simp only [KeepsMatches, accepts_anyTerm_word _ hword]

/-! ## Steady needles -/

/-- Looking past case finds one of the terms where it would be found itself,
if each of them is steady. -/
theorem hasTerm_of_steady {s : String} (h : ∀ word ∈ words, Text.Steady word)
    (hexact : hasTerm false words s = true) : hasTerm true words s = true := by
  obtain ⟨word, hword, hoccurs⟩ := List.any_eq_true.mp hexact
  exact List.any_eq_true.mpr ⟨word, hword, Text.occursIn_lower_of_steady (h word hword) hoccurs⟩

theorem keepsMatches_contains (h : Text.Steady needle.toList) (read : α → String) :
    KeepsMatches (.text read (.contains needle)) := by
  intro exact loose hexact hloose r item haccepts
  rw [accepts_contains, hexact] at haccepts
  rw [accepts_contains, hloose]
  exact Text.occursIn_lower_of_steady h haccepts

theorem keepsMatches_anyTerm (h : ∀ word ∈ Text.words terms.toList, Text.Steady word)
    (reads : List (α → String)) : KeepsMatches (.anyTerm terms reads) := by
  intro exact loose hexact hloose r item haccepts
  rw [accepts_anyTerm, Bool.or_eq_true] at haccepts ⊢
  refine haccepts.imp_right fun heach => List.all_eq_true.mpr fun read hread => ?_
  have hterm := List.all_eq_true.mp heach read hread
  rw [hexact] at hterm
  rw [hloose]
  exact hasTerm_of_steady h hterm

/-! ## Other needles -/

/-- Only of a steady needle does a search among texts themselves keep its
matches. -/
theorem steady_of_keepsMatches_contains
    (h : KeepsMatches (.text (id : String → String) (.contains needle))) :
    Text.Steady needle.toList := by
  rw [Text.steady_iff]
  intro hay hoccurs
  let exact : Config := { ignoreCase := false }
  have hkept := h exact .standard rfl rfl ⟨.epoch, .epoch⟩ (String.ofList hay)
  rw [accepts_contains, accepts_contains, id, String.toList_ofList] at hkept
  exact hkept hoccurs

/-- **Which searches look past case without losing a match.** The search for
a needle does, whatever it reads, exactly if the needle is steady, as all
needles without a capital sigma are. The search of several texts does if
all of its terms are steady, and a search for one term only then. -/
theorem keepsMatches_iff_steady (needle terms : String) :
    (Text.Steady needle.toList ↔
        ∀ (α : Type) (read : α → String), KeepsMatches (.text read (.contains needle))) ∧
      ('Σ' ∉ needle.toList → Text.Steady needle.toList) ∧
      ((∀ word ∈ Text.words terms.toList, Text.Steady word) →
        ∀ (α : Type) (reads : List (α → String)), KeepsMatches (.anyTerm terms reads)) ∧
      ∀ word, Text.words terms.toList = [word] →
        (Text.Steady word ↔
          ∀ (α : Type) (reads : List (α → String)), KeepsMatches (.anyTerm terms reads)) := by
  refine ⟨⟨fun h α => keepsMatches_contains h, fun h => ?_⟩, fun h => ?_,
    fun h α => keepsMatches_anyTerm h, fun word hword => ⟨fun h α => ?_, fun h => ?_⟩⟩
  · exact steady_of_keepsMatches_contains (h String id)
  · exact Text.steadyAfter_of_not_mem h []
  · refine keepsMatches_anyTerm fun w hw => ?_
    rw [hword, List.mem_singleton] at hw
    rwa [hw]
  · have hkeeps := (keepsMatches_anyTerm_word_iff hword id).mp (h String [id])
    simpa using steady_of_keepsMatches_contains hkeeps

/-- **A needle that is lost**: the capital sigma by itself, in a text that
ends with it. -/
theorem not_keepsMatches_sigma :
    let exact : Config := { ignoreCase := false }
    let r : Clock.Readings := ⟨.epoch, .epoch⟩
    accepts exact [.text id (.contains "Σ")] r "ΑΣ" = true ∧
      accepts .standard [.text id (.contains "Σ")] r "ΑΣ" = false := by
  decide

end Leaf

end Criteria
