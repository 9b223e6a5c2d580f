import Criteria.Proofs.Leaf.Conditions
/-!
# Filters — what calls lead to

Every call of a filter comes down to four things: nothing changes, a
condition that the filter does not object to is pushed, the join turns to
`and`, or it turns to `or`. `Reachable` is what they lead to from an empty
filter, and an invariant of filters is an induction over it with as many
cases. The calls that add several conditions, or one that a group came to,
stay inside, whatever filled the group.
-/

namespace Criteria

namespace Filter

variable {α : Type} {config : Config} {f : Filter α}

/-- The filters that calls lead to from the empty one of a configuration. -/
inductive Reachable (config : Config) : Filter α → Prop
  | empty : Reachable config (ofConfig config)
  /-- A condition goes in that the filter does not object to. -/
  | push {f : Filter α} (c : Condition α) :
      Reachable config f → f.objection? c = none → Reachable config (f.push c)
  | and {f : Filter α} : Reachable config f → Reachable config f.and
  | or {f : Filter α} : Reachable config f → Reachable config f.or

namespace Reachable

/-- No call changes the configuration. -/
theorem config_eq (h : f.Reachable config) : f.config = config := by
  induction h with
  | empty => rfl
  | push c _ _ ih => rw [push_config, ih]
  | and _ ih => exact ih
  | or _ ih => rw [or_config, ih]

/-- A call that adds a condition stays inside, refused or not. -/
theorem add (h : f.Reachable config) (c : Condition α) : (f.add c).filter.Reachable config := by
  rcases f.add_cases c with ⟨d, -, hadd⟩ | ⟨hno, hadd⟩
  · rw [hadd]; exact h
  · rw [hadd]; exact h.push c hno

/-- So does a row of conditions none of which is degenerate. -/
theorem pushAll {cs : List (Condition α)} (h : f.Reachable config)
    (hcs : ∀ c ∈ cs, c.degeneracy? = none) : (f.pushAll cs).Reachable config := by
  induction cs generalizing f with
  | nil => exact h
  | cons c cs ih =>
      have hc : f.objection? c = none := objection?_of_discerning f (hcs c (by simp))
      exact ih (h.push c hc) fun d hd => hcs d (by simp [hd])

/-- And a leaf. -/
theorem addLeaf (h : f.Reachable config) (leaf : Leaf α) :
    (f.addLeaf leaf).filter.Reachable config := by
  rcases f.addLeaf_cases leaf with ⟨e, -, hadd⟩ | ⟨cs, -, hcs, hadd⟩
  · rw [hadd]; exact h
  · rw [hadd]; exact h.pushAll hcs

/-- **And a group, whatever it was filled with.** The filter inside need
not be reachable: all that comes out of it is one condition. -/
theorem close (h : f.Reachable config) (inner : Outcome α) :
    (f.close inner).filter.Reachable config := by
  rcases f.close_cases inner with ⟨e, hclose⟩ | ⟨-, hno, hclose⟩
  · rw [hclose]; exact h
  · rw [hclose]; exact h.push _ hno

end Reachable

end Filter

end Criteria
