import Criteria.Unicode.Boundaries
/-!
# Tables of runs

A table gives every code point a value, and holds the runs of one value in
order, each as `width · first point + value` for values below the width.
Points on one side of all first points have one value.
-/

namespace Criteria.Unicode.Runs

/-- Where the runs of a table start. -/
def starts (width : Nat) (runs : List Nat) : List Nat := runs.map (· / width)

/-- The value of the last run at or before a point, or the one found so
far. -/
def valueAt (width : Nat) : List Nat → Nat → Nat → Nat
  | [], _, found => found
  | run :: rest, p, found =>
      if p < run / width then found else valueAt width rest p (run % width)

theorem valueAt_congr {width : Nat} {runs : List Nat} {p q : Nat}
    (h : SameSide (starts width runs) p q) (found : Nat) :
    valueAt width runs p found = valueAt width runs q found := by
  induction runs generalizing found with
  | nil => rfl
  | cons run rest ih =>
    have hfirst := h (run / width) List.mem_cons_self
    have hlt : p < run / width ↔ q < run / width := by omega
    rw [valueAt, valueAt, ih fun x hx => h x (List.mem_cons_of_mem _ hx)]
    simp only [hlt]

end Criteria.Unicode.Runs
