import Criteria.Predicate
import Mathlib.Algebra.Order.Floor.Div
/-!
# Predicates — the pages of what passes

A page is cut out of the items that pass by dropping the pages before it.
Two of its numbers are cut off at what a machine word holds: the guard looks
at a page number and a size only up to `Guard.largest`, and no more than
`Predicate.skipLimit` items are dropped. Neither is felt: a number is zero
whether or not it is cut off, and a list that a machine can hold has no item
that far back. So the pages of one size are the list that passes, cut into
parts.
-/

namespace Criteria

/-! ## What is refused -/

/-- Cutting a count off at `Guard.largest` does not change whether it is
refused. -/
theorem Guard.ensurePositive_min (name : String) (n : Nat) :
    ensurePositive name (min n largest) =
      if n = 0 then .error (.outOfRange name 0 "must be greater than zero") else .ok () := by
  have hlargest : 0 < largest := by decide
  rw [ensurePositive]
  by_cases hn : n = 0
  · have hmin : min (n : Int) largest = 0 := by omega
    rw [if_pos hn, hmin, if_pos (Int.le_refl 0)]
  · rw [if_neg hn, if_neg (by omega)]

theorem Guard.ensurePagination_eq (number size : Nat) :
    ensurePagination number size =
      if number = 0 then .error (.outOfRange "page" 0 "must be greater than zero")
      else if size = 0 then .error (.outOfRange "page_size" 0 "must be greater than zero")
      else .ok () := by
  rw [ensurePagination, ensurePositive_min, ensurePositive_min]
  split <;> rfl

namespace Predicate

variable {α : Type} {p : Predicate α} {r : Clock.Readings} {items : List α} {size : Nat}

/-! ## The elements at some indices -/

/-- The elements of a list from one index up to another, which is left out. -/
def between (first last : Nat) (xs : List α) : List α :=
  (xs.zipIdx.filter fun (_, i) => first ≤ i && i < last).map Prod.fst

theorem map_fst_filter_zipIdx (first last start : Nat) (xs : List α) :
    (((xs.zipIdx start).filter fun (_, i) => first ≤ i && i < last).map Prod.fst) =
      (xs.drop (first - start)).take (last - max first start) := by
  induction xs generalizing start with
  | nil => simp
  | cons x xs ih =>
    rw [List.zipIdx_cons, List.filter_cons]
    by_cases hfirst : first ≤ start
    · have hdrop : first - start = 0 ∧ first - (start + 1) = 0 := by omega
      have hmax : max first start = start ∧ max first (start + 1) = start + 1 := by omega
      rw [hdrop.1, hmax.1, List.drop_zero]
      by_cases hlast : start < last
      · have htake : last - start = last - (start + 1) + 1 := by omega
        rw [if_pos (by simp [hfirst, hlast]), List.map_cons, ih, hdrop.2, hmax.2, List.drop_zero,
          htake, List.take_succ_cons]
      · have htake : last - start = 0 ∧ last - (start + 1) = 0 := by omega
        rw [if_neg (by simp [hlast]), ih, hmax.2, htake.1, htake.2, List.take_zero, List.take_zero]
    · have hdrop : first - start = first - (start + 1) + 1 := by omega
      have hmax : max first (start + 1) = max first start := by omega
      rw [if_neg (by simp [hfirst]), ih, hdrop, hmax, List.drop_succ_cons]

/-- The same elements by dropping and taking. -/
theorem between_eq (first last : Nat) (xs : List α) :
    between first last xs = (xs.drop first).take (last - first) := by
  rw [between, map_fst_filter_zipIdx, Nat.sub_zero, Nat.max_zero]

/-! ## One page -/

/-- A page without its cut-offs. Where the product is cut off, there is
nothing left of the list either way. -/
theorem page_eq (hitems : items.length < 2 ^ 64) (number size : Nat) :
    p.page r items number size =
      if number = 0 then .error (.outOfRange "page" 0 "must be greater than zero")
      else if size = 0 then .error (.outOfRange "page_size" 0 "must be greater than zero")
      else .ok (((p.filter r items).drop ((number - 1) * size)).take size) := by
  have hlength : (p.filter r items).length < 2 ^ 64 := (List.length_filter_le _ _).trans_lt hitems
  have hskip : (p.filter r items).drop (min ((number - 1) * size) skipLimit) =
      (p.filter r items).drop ((number - 1) * size) := by
    rcases Nat.le_total ((number - 1) * size) skipLimit with h | h
    · rw [Nat.min_eq_left h]
    · have hlimit : (p.filter r items).length ≤ skipLimit := Nat.le_sub_one_of_lt hlength
      rw [Nat.min_eq_right h, List.drop_eq_nil_of_le hlimit, List.drop_eq_nil_of_le (hlimit.trans h)]
  rw [page, Guard.ensurePagination_eq, hskip]
  split
  · rfl
  · split <;> rfl

/-- The elements of a page by their indices. -/
theorem page_eq_between (hitems : items.length < 2 ^ 64) (number size : Nat) :
    p.page r items number size =
      if number = 0 then .error (.outOfRange "page" 0 "must be greater than zero")
      else if size = 0 then .error (.outOfRange "page_size" 0 "must be greater than zero")
      else .ok (between ((number - 1) * size) (number * size) (p.filter r items)) := by
  rw [page_eq hitems, between_eq]
  by_cases hnumber : number = 0
  · rw [if_pos hnumber, if_pos hnumber]
  · have hwidth : number * size - (number - 1) * size = size := by
      rw [← Nat.sub_mul, Nat.sub_sub_self (Nat.one_le_iff_ne_zero.mpr hnumber), Nat.one_mul]
    rw [hwidth]

/-! ## All pages -/

/-- The first pages, one after the other. -/
def firstPages (p : Predicate α) (r : Clock.Readings) (items : List α) (size : Nat) :
    Nat → Except Error (List α)
  | 0 => .ok []
  | count + 1 => do
      let before ← p.firstPages r items size count
      let next ← p.page r items (count + 1) size
      return before ++ next

theorem firstPages_eq (hitems : items.length < 2 ^ 64) (hsize : 0 < size) (count : Nat) :
    p.firstPages r items size count = .ok ((p.filter r items).take (count * size)) := by
  induction count with
  | zero => simp [firstPages]
  | succ count ih =>
    rw [firstPages, ih, page_eq hitems, if_neg (Nat.succ_ne_zero count), if_neg hsize.ne',
      Nat.add_sub_cancel, Nat.succ_mul, List.take_add]
    rfl

/-- A part that does not begin past the end is full, unless the list ends in
it. -/
theorem length_take_drop {xs : List α} {number : Nat} (hnumber : 0 < number)
    (hfull : number * size ≤ xs.length) :
    ((xs.drop ((number - 1) * size)).take size).length = size := by
  have hsplit : number * size = (number - 1) * size + size := by
    rw [← Nat.succ_mul, Nat.succ_eq_add_one, Nat.sub_add_cancel hnumber]
  rw [List.length_take, List.length_drop]
  omega

/-- **The pages are the list that passes, cut into parts.** A page is refused
for a number or a size of zero, and holds the elements at its indices
otherwise. With `count` the number of parts, the first `count` pages make up
the whole list; of those all but the last are full, and exactly the pages
after them are empty. -/
theorem pages_partition (p : Predicate α) (r : Clock.Readings) (items : List α)
    (hitems : items.length < 2 ^ 64) (size : Nat) :
    let found := p.filter r items
    (∀ number, p.page r items number size =
      if number = 0 then .error (.outOfRange "page" 0 "must be greater than zero")
      else if size = 0 then .error (.outOfRange "page_size" 0 "must be greater than zero")
      else .ok (between ((number - 1) * size) (number * size) found)) ∧
    (0 < size →
      let count := found.length ⌈/⌉ size
      p.firstPages r items size count = .ok found ∧
      ∀ number, 0 < number → ∃ xs, p.page r items number size = .ok xs ∧
        (number < count → xs.length = size) ∧ (xs = [] ↔ count < number)) := by
  intro found
  refine ⟨fun number => page_eq_between hitems number size, fun hsize => ?_⟩
  intro count
  -- so many pages hold all that passes, and no fewer do
  have hcount (n : Nat) : count ≤ n ↔ found.length ≤ n * size := by
    rw [Nat.mul_comm]
    exact ceilDiv_le_iff_le_mul hsize
  refine ⟨?_, fun number hnumber => ?_⟩
  · rw [firstPages_eq hitems hsize, List.take_of_length_le ((hcount count).mp le_rfl)]
  refine ⟨(found.drop ((number - 1) * size)).take size, ?_, fun hlt => ?_, ?_⟩
  · rw [page_eq hitems, if_neg hnumber.ne', if_neg hsize.ne']
  · have hfull : ¬ found.length ≤ number * size := fun hle =>
      hlt.not_ge ((hcount number).mpr hle)
    exact length_take_drop hnumber (Nat.le_of_not_le hfull)
  · have hnil : (found.drop ((number - 1) * size)).take size = [] ↔
        found.length ≤ (number - 1) * size := by
      rw [List.take_eq_nil_iff, List.drop_eq_nil_iff]
      omega
    rw [hnil, ← hcount]
    omega

/-- Five numbers above one in pages of two: the third page holds one number,
and the page of the largest number that a word holds is empty. -/
theorem pages_partition_five :
    let p : Predicate Nat := ⟨.ofTest (1 < ·)⟩
    let r : Clock.Readings := ⟨.epoch, .epoch⟩
    let items := [1, 2, 3, 4, 5, 6]
    (items.length < 2 ^ 64 ∧ 0 < 2) ∧
      p.firstPages r items 2 ((p.filter r items).length ⌈/⌉ 2) = .ok (p.filter r items) ∧
      p.page r items 3 2 = .ok [6] ∧ p.page r items (2 ^ 64 - 1) 2 = .ok [] := by
  intro p r items
  obtain ⟨hpage, hall⟩ := pages_partition p r items (by decide) 2
  exact ⟨by decide, (hall (by decide)).1, (hpage 3).trans rfl, (hpage (2 ^ 64 - 1)).trans rfl⟩

end Predicate

end Criteria
