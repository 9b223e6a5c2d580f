import Criteria.Predicate
import Mathlib.Data.List.Basic
/-!
# Predicates — one selection, asked about in many ways

An item may stand in a list more than once, so what passes is told by the
occurrences: the items with their indices. `occurrences` are those that
pass, in the order of the list, and every way to ask reads them: lists are
their items, a count is their number, a search answers with the two halves
of the first. The negation has the occurrences that are left.
-/

namespace Criteria

namespace Predicate

variable {α : Type} {p : Predicate α} {r : Clock.Readings} {items : List α}

/-- The items that pass, each with its index. -/
def occurrences (p : Predicate α) (r : Clock.Readings) (items : List α) : List (α × Nat) :=
  items.zipIdx.filter fun (item, _) => p.test r item

theorem mem_occurrences {item : α} {i : Nat} :
    (item, i) ∈ p.occurrences r items ↔ items[i]? = some item ∧ p.test r item = true := by
  rw [occurrences, List.mem_filter, List.mem_zipIdx_iff_getElem?]

/-- An index of the list is among them if its item passes. -/
theorem mem_indices {i : Nat} (hi : i < items.length) :
    i ∈ (p.occurrences r items).map Prod.snd ↔ p.test r items[i] = true := by
  rw [List.mem_map]
  constructor
  · rintro ⟨⟨item, _⟩, hmem, rfl⟩
    obtain ⟨hitem, hpass⟩ := mem_occurrences.mp hmem
    obtain ⟨_, rfl⟩ := List.getElem?_eq_some_iff.mp hitem
    exact hpass
  · intro hpass
    exact ⟨(items[i], i), mem_occurrences.mpr ⟨List.getElem?_eq_getElem hi, hpass⟩, rfl⟩

/-! ## The ways to ask -/

theorem filter_eq_occurrences (p : Predicate α) (r : Clock.Readings) (items : List α) :
    p.filter r items = (p.occurrences r items).map Prod.fst := by
  calc p.filter r items
      = (items.zipIdx.map Prod.fst).filter (p.test r) := by rw [List.zipIdx_map_fst]; rfl
    _ = (p.occurrences r items).map Prod.fst := List.filter_map

/-- What is gathered is appended to what was found before. -/
theorem toList_foldl_push (found : Array α) :
    (items.foldl (fun found item => if p.test r item then found.push item else found)
        found).toList = found.toList ++ p.filter r items := by
  induction items generalizing found with
  | nil => simp [filter]
  | cons item rest ih =>
    rw [List.foldl_cons, ih, filter, filter, List.filter_cons]
    cases p.test r item <;> simp

theorem toList_gather (p : Predicate α) (r : Clock.Readings) (items : List α) :
    (p.gather r items).toList = p.filter r items := by
  rw [gather, toList_foldl_push]
  rfl

theorem toList_retain (p : Predicate α) (r : Clock.Readings) (items : Array α) :
    (p.retain r items).toList = p.filter r items.toList :=
  Array.toList_filter

theorem count_eq_length (p : Predicate α) (r : Clock.Readings) (items : List α) :
    p.count r items = (p.filter r items).length :=
  List.countP_eq_length_filter

theorem any_iff_filter_ne_nil : p.any r items = true ↔ p.filter r items ≠ [] := by
  rw [any, List.any_eq_true, filter, Ne, List.filter_eq_nil_iff]
  simp

theorem all_iff_filter_eq : p.all r items = true ↔ p.filter r items = items := by
  rw [all, List.all_eq_true, filter, List.filter_eq_self]

/-- A search for an item finds the first occurrence's. -/
theorem find?_eq_head? (p : Predicate α) (r : Clock.Readings) (items : List α) :
    p.find? r items = (p.occurrences r items).head?.map Prod.fst := by
  rw [← List.head?_map, ← filter_eq_occurrences, filter, List.head?_filter]
  rfl

/-- And a search for an index that very occurrence's. -/
theorem position?_eq_head? (p : Predicate α) (r : Clock.Readings) (items : List α) :
    p.position? r items = (p.occurrences r items).head?.map Prod.snd := by
  rw [position?, List.findIdx?_eq_fst_find?_zipIdx, occurrences, List.head?_filter]

/-- Before it nothing passes. -/
theorem test_eq_false_of_lt_position {i j : Nat} {item : α} (hi : p.position? r items = some i)
    (hj : j < i) (hitem : items[j]? = some item) : p.test r item = false := by
  obtain ⟨_, -, hbefore⟩ := List.findIdx?_eq_some_iff_getElem.mp hi
  obtain ⟨_, rfl⟩ := List.getElem?_eq_some_iff.mp hitem
  simpa using hbefore j hj

/-- What the ways to ask about some items answer, if the selected ones of
their occurrences are those that pass. -/
structure Describes (p : Predicate α) (r : Clock.Readings) (items : List α)
    (selected : List (α × Nat)) : Prop where
  filter_eq : p.filter r items = selected.map Prod.fst
  gather_eq : (p.gather r items).toList = selected.map Prod.fst
  retain_eq : (p.retain r items.toArray).toList = selected.map Prod.fst
  count_eq : p.count r items = selected.length
  any_iff : p.any r items = true ↔ selected ≠ []
  all_iff : p.all r items = true ↔ selected.map Prod.fst = items
  find?_eq : p.find? r items = selected.head?.map Prod.fst
  position?_eq : p.position? r items = selected.head?.map Prod.snd

/-- **All of them describe the occurrences that pass.** -/
theorem describes_occurrences (p : Predicate α) (r : Clock.Readings) (items : List α) :
    p.Describes r items (p.occurrences r items) := by
  have hfilter := filter_eq_occurrences p r items
  exact {
    filter_eq := hfilter
    gather_eq := (toList_gather p r items).trans hfilter
    retain_eq := (toList_retain p r items.toArray).trans hfilter
    count_eq := by rw [count_eq_length, hfilter, List.length_map]
    any_iff := by rw [any_iff_filter_ne_nil, hfilter, Ne, List.map_eq_nil_iff]
    all_iff := by rw [all_iff_filter_eq, hfilter]
    find?_eq := find?_eq_head? p r items
    position?_eq := position?_eq_head? p r items }

/-! ## The negation -/

@[simp] theorem test_negate (p : Predicate α) (r : Clock.Readings) (item : α) :
    p.negate.test r item = !p.test r item := rfl

/-- An index is selected by the predicate or by its negation. -/
theorem mem_indices_iff_not_mem_negate {i : Nat} (hi : i < items.length) :
    i ∈ (p.occurrences r items).map Prod.snd ↔
      i ∉ (p.negate.occurrences r items).map Prod.snd := by
  rw [mem_indices hi, mem_indices hi, test_negate, Bool.not_eq_true', Bool.not_eq_false]

theorem count_add_count_negate (p : Predicate α) (r : Clock.Readings) (items : List α) :
    p.count r items + p.negate.count r items = items.length := by
  have hperm := List.filter_append_perm (p.test r) items
  rw [count_eq_length, count_eq_length, ← List.length_append]
  exact hperm.length_eq

theorem all_eq_not_any_negate (p : Predicate α) (r : Clock.Readings) (items : List α) :
    p.all r items = !p.negate.any r items :=
  List.all_eq_not_any_not

/-- Negated twice, a predicate selects what it did. -/
theorem occurrences_negate_negate (p : Predicate α) (r : Clock.Readings) (items : List α) :
    p.negate.negate.occurrences r items = p.occurrences r items := by
  simp [occurrences]

/-- **All ways to ask describe one selection, and the negation the rest of
the list.** The selection is the part of the list's occurrences that passes,
in order; the first of them is what a search finds, and nothing before it
passes. Each index is selected by the predicate or else by its negation, so
their counts add up to the length; all items pass where none passes the
negation; and the negation's negation is described by the selection again. -/
theorem describes_selection (p : Predicate α) (r : Clock.Readings) (items : List α) :
    let selected := p.occurrences r items
    let others := p.negate.occurrences r items
    (selected.Sublist items.zipIdx ∧ ∀ item i,
        (item, i) ∈ selected ↔ items[i]? = some item ∧ p.test r item = true) ∧
      p.Describes r items selected ∧
      (∀ i, p.position? r items = some i →
        ∀ j < i, ∀ item, items[j]? = some item → p.test r item = false) ∧
      p.negate.Describes r items others ∧
      (∀ i < items.length, i ∈ selected.map Prod.snd ↔ i ∉ others.map Prod.snd) ∧
      p.count r items + p.negate.count r items = items.length ∧
      p.all r items = !p.negate.any r items ∧
      p.negate.negate.Describes r items selected := by
  intro selected others
  refine ⟨⟨List.filter_sublist, fun item i => mem_occurrences⟩, describes_occurrences p r items,
    fun i hi j hj item hitem => test_eq_false_of_lt_position hi hj hitem,
    describes_occurrences p.negate r items, fun i hi => mem_indices_iff_not_mem_negate hi,
    count_add_count_negate p r items, all_eq_not_any_negate p r items, ?_⟩
  have hnegated := describes_occurrences p.negate.negate r items
  rwa [occurrences_negate_negate] at hnegated

end Predicate

end Criteria
