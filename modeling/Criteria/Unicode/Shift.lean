import Criteria.Unicode.Boundaries
/-!
# Moving code points by a distance

Case maps move runs of code points by one distance, each point of a run or
every second one. A map is a list of such runs in the order of their first
points.
-/

namespace Criteria.Unicode

/-- The code points from `first` to `last` by `step` move by `delta`. -/
structure Shift where
  first : Nat
  last : Nat
  step : Nat
  delta : Int
deriving Repr

namespace Shift

/-- The run has the point. -/
def covers (s : Shift) (p : Nat) : Bool :=
  s.first ≤ p && p ≤ s.last && (p - s.first) % s.step == 0

/-- Where the run moves a point of its own. -/
def target (s : Shift) (p : Nat) : Nat := ((p : Int) + s.delta).toNat

/-- Where a map moves a point; points in no run stay. -/
def move : List Shift → Nat → Nat
  | [], p => p
  | s :: rest, p =>
      if p < s.first then p
      else if s.covers p then s.target p
      else move rest p

/-- The point that a run moves to `p`, if there is one. -/
def source? (s : Shift) (p : Nat) : Option Nat :=
  let q := (p : Int) - s.delta
  if 0 ≤ q && s.covers q.toNat then some q.toNat else none

/-! ## What a map leaves alone -/

/-- The points that a run has. -/
def sources (s : Shift) : List Nat :=
  (List.range' s.first (s.last + 1 - s.first)).filter s.covers

theorem mem_sources {s : Shift} {p : Nat} : p ∈ s.sources ↔ s.covers p = true := by
  rw [sources, List.mem_filter, List.mem_range'_1, and_iff_right_iff_imp]
  intro h
  have hrun : s.first ≤ p ∧ p ≤ s.last := by
    simp only [covers, Bool.and_eq_true, decide_eq_true_eq] at h
    exact h.1
  omega

/-- Some run moves the point, or moves another one to it. -/
def Touches (shifts : List Shift) (p : Nat) : Prop :=
  ∃ s ∈ shifts, ∃ q ∈ s.sources, p = q ∨ p = s.target q

theorem move_of_not_touches {shifts : List Shift} {p : Nat} (h : ¬ Touches shifts p) :
    move shifts p = p := by
  induction shifts with
  | nil => rfl
  | cons s rest ih =>
    have hcovers : ¬ s.covers p = true := fun hp =>
      h ⟨s, List.mem_cons_self, p, mem_sources.mpr hp, Or.inl rfl⟩
    have hrest : ¬ Touches rest p := fun ⟨t, ht, htouched⟩ =>
      h ⟨t, List.mem_cons_of_mem s ht, htouched⟩
    rw [move, if_neg hcovers, ih hrest, ite_self]

theorem source?_of_not_touches {shifts : List Shift} {p : Nat} (h : ¬ Touches shifts p)
    {s : Shift} (hs : s ∈ shifts) : s.source? p = none := by
  refine if_neg fun hsource => h ⟨s, hs, ((p : Int) - s.delta).toNat, ?_⟩
  obtain ⟨hnonneg, hcovers⟩ := (Bool.and_eq_true _ _).mp hsource
  have hle : 0 ≤ (p : Int) - s.delta := of_decide_eq_true hnonneg
  refine ⟨mem_sources.mpr hcovers, Or.inr ?_⟩
  rw [target]
  omega

/-- The points that a map moves or moves others to, each with the next. -/
def points (shifts : List Shift) : List Nat :=
  shifts.flatMap fun s => s.sources.flatMap fun p => [p, p + 1, s.target p, s.target p + 1]

/-- A point that a map touches is the only one on its side. -/
theorem eq_of_touches {shifts : List Shift} {p q : Nat} (h : SameSide (points shifts) p q)
    (hp : Touches shifts p) : q = p := by
  obtain ⟨s, hs, x, hx, hpx⟩ := hp
  have hmem : ∀ y ∈ [x, x + 1, s.target x, s.target x + 1], y ∈ points shifts := fun y hy =>
    List.mem_flatMap.mpr ⟨s, hs, List.mem_flatMap.mpr ⟨x, hx, hy⟩⟩
  have hiff : p = p ↔ q = p := by
    rcases hpx with rfl | rfl
    · exact h.eq_iff (hmem _ (by simp)) (hmem _ (by simp))
    · exact h.eq_iff (hmem _ (by simp)) (hmem _ (by simp))
  exact hiff.mp rfl

end Shift

end Criteria.Unicode
