import Criteria.Leaf.Basic
import Criteria.Proofs.Filter.Reading
/-!
# Leaves — what is read off an item

A leaf reads as another where both are refused alike, or the conditions of
the one read as the conditions of the other. Filters that read alike then
take the two leaves alike.
-/

namespace Criteria

variable {α β : Type} {config : Config} {read : α → β}

/-- Under a configuration the two leaves have the same wrong argument, or
conditions that read alike. -/
inductive Leaf.Reads (config : Config) (read : α → β) (a : Leaf α) (b : Leaf β) : Prop
  | refused {e : Error} :
      a.conditions config = .error e → b.conditions config = .error e → Reads config read a b
  | taken {cs : List (Condition α)} {ds : List (Condition β)} :
      a.conditions config = .ok cs → b.conditions config = .ok ds →
      List.Forall₂ (Condition.Reads read) cs ds → Reads config read a b

/-- A leaf reads as itself. -/
theorem Leaf.reads_refl (config : Config) (a : Leaf α) : a.Reads config id a := by
  cases h : a.conditions config with
  | error e => exact .refused h h
  | ok cs => exact .taken h h (List.forall₂_same.mpr fun c _ => c.reads_refl)

/-- **Filters that read alike take leaves that do alike.** -/
theorem Filter.Reads.addLeaf {f : Filter α} {g : Filter β} {a : Leaf α} {b : Leaf β}
    (h : f.Reads read g) (hab : a.Reads f.config read b) :
    (f.addLeaf a).Reads read (g.addLeaf b) := by
  rw [Filter.addLeaf, Filter.addLeaf, ← h.config_eq]
  cases hab with
  | refused ha hb =>
      rw [ha, hb]
      exact ⟨h, rfl⟩
  | taken ha hb hcs =>
      rw [ha, hb]
      exact h.addAll hcs

end Criteria
