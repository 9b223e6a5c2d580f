import Criteria.Unicode.CaseFolding
import Criteria.Unicode.Category
/-!
# Classes of characters

A class is a set of characters, together with code points among which are
all those where membership changes. So characters on one side of them are
in the class together, and the boundaries of the class are found among them:
those of its set, however it was put together (`boundaries_congr`). Every
way to put classes together keeps the points of its parts; to ignore case
adds those where case begins or ends.
-/

namespace Criteria.Unicode

/-- Beyond ASCII there is no ASCII case. -/
theorem toLower_of_le {c : Char} (h : 128 ≤ c.toNat) : c.toLower = c := by
  refine dif_neg fun ⟨_, hle⟩ => ?_
  have htoNat : c.toNat ≤ 'Z'.toNat := hle
  have hbound : 'Z'.toNat < 128 := by decide
  omega

theorem toUpper_of_le {c : Char} (h : 128 ≤ c.toNat) : c.toUpper = c := by
  refine dif_neg fun ⟨_, hle⟩ => ?_
  have htoNat : c.toNat ≤ 'z'.toNat := hle
  have hbound : 'z'.toNat < 128 := by decide
  omega

theorem toNat_ofNat {p : Nat} (h : p.isValidChar) : (Char.ofNat p).toNat = p :=
  congrArg Char.toNat (dif_pos h)

/-- A set of characters, and the points where membership may change. -/
structure CharClass where
  holds : Char → Bool
  points : List Nat
  holds_congr : ∀ c d : Char, SameSide points c.toNat d.toNat → holds c = holds d

namespace CharClass

/-! ## Basic classes -/

/-- No character. -/
def none : CharClass where
  holds _ := false
  points := []
  holds_congr _ _ _ := rfl

/-- Every character. -/
def all : CharClass where
  holds _ := true
  points := []
  holds_congr _ _ _ := rfl

/-- One character. -/
def single (c : Char) : CharClass where
  holds d := d == c
  points := [c.toNat, c.toNat + 1]
  holds_congr d e h := by
    have heq : d = c ↔ e = c := by
      rw [← Char.toNat_inj, ← Char.toNat_inj]
      exact h.eq_iff (by simp) (by simp)
    rw [Bool.eq_iff_iff, beq_iff_eq, beq_iff_eq, heq]

/-- The characters between two, ends included. -/
def between (low high : Char) : CharClass where
  holds c := low ≤ c && c ≤ high
  points := [low.toNat, high.toNat + 1]
  holds_congr c d h := by
    have hlow : low ≤ c ↔ low ≤ d := h low.toNat (by simp)
    have hhigh := h (high.toNat + 1) (by simp)
    have hhigh' : c ≤ high ↔ d ≤ high := by
      show c.toNat ≤ high.toNat ↔ d.toNat ≤ high.toNat
      omega
    simp only [hlow, hhigh']

/-- The characters within some boundaries. -/
def ofBoundaries (b : Boundaries) : CharClass where
  holds c := b.within c.toNat
  points := b
  holds_congr _ _ h := Boundaries.within_congr h

/-- The characters of some categories. -/
def ofCategories (p : Category → Bool) : CharClass where
  holds c := p (category c)
  points := Category.points
  holds_congr _ _ h := congrArg p (category_congr h)

/-- The ASCII characters of a set. -/
def ofAscii (p : Char → Bool) : CharClass where
  holds c := c.toNat < 128 && p c
  points := List.range 129
  holds_congr c d h := by
    rcases h.eq_or_le with heq | ⟨hc, hd⟩
    · rw [Char.toNat_inj.mp heq]
    · rw [decide_eq_false (Nat.not_lt.mpr hc), decide_eq_false (Nat.not_lt.mpr hd)]
      rfl

/-! ## Classes out of others -/

/-- The characters outside a class. -/
def complement (s : CharClass) : CharClass where
  holds c := !s.holds c
  points := s.points
  holds_congr c d h := congrArg (!·) (s.holds_congr c d h)

/-- The characters for which an operation on membership in two classes
holds. -/
def combine (op : Bool → Bool → Bool) (s t : CharClass) : CharClass where
  holds c := op (s.holds c) (t.holds c)
  points := s.points ++ t.points
  holds_congr c d h := by rw [s.holds_congr c d h.left, t.holds_congr c d h.right]

/-- The characters of either class. -/
def union : CharClass → CharClass → CharClass := combine (· || ·)

/-- The characters of the first class that are not in the second. -/
def difference : CharClass → CharClass → CharClass := combine fun a b => a && !b

/-- The characters alike but for case to one of a class. -/
def foldCase (s : CharClass) : CharClass where
  holds c := (caseVariants c).any s.holds
  points := s.points ++ foldingPoints
  holds_congr c d h := by
    rcases caseVariants_cases h.right with rfl | ⟨hc, hd⟩
    · rfl
    · simp only [hc, hd, List.any_cons, List.any_nil, s.holds_congr c d h.left]

/-- The ASCII characters alike but for case to one of a class, and the
class. -/
def foldAsciiCase (s : CharClass) : CharClass where
  holds c := s.holds c || s.holds c.toLower || s.holds c.toUpper
  points := s.points ++ List.range 129
  holds_congr c d h := by
    rcases h.right.eq_or_le with heq | ⟨hc, hd⟩
    · rw [Char.toNat_inj.mp heq]
    · rw [toLower_of_le hc, toUpper_of_le hc, toLower_of_le hd, toUpper_of_le hd,
        s.holds_congr c d h.left]

/-! ## Boundaries -/

/-- The code point is a character of the class. -/
def holdsAt (s : CharClass) (p : Nat) : Bool := decide p.isValidChar && s.holds (Char.ofNat p)

/-- Where this may change: at the points of the class, and where there begin
or end to be characters. -/
def pointsAt (s : CharClass) : List Nat := 0 :: 0xD800 :: 0xE000 :: 0x110000 :: s.points

/-- Where membership changes, with all code points outside that have no
character. -/
def boundaries (s : CharClass) : Boundaries := .ofPoints s.holdsAt false s.pointsAt.mergeSort

theorem holdsAt_congr (s : CharClass) {p q : Nat} (h : SameSide s.pointsAt p q) :
    s.holdsAt p = s.holdsAt q := by
  have hlow := h 0xD800 (by simp [pointsAt])
  have hhigh := h 0xE000 (by simp [pointsAt])
  have hend := h 0x110000 (by simp [pointsAt])
  have hvalid : p.isValidChar ↔ q.isValidChar := by
    unfold Nat.isValidChar
    omega
  by_cases hp : p.isValidChar
  · have hq : q.isValidChar := hvalid.mp hp
    have hholds : s.holds (Char.ofNat p) = s.holds (Char.ofNat q) := by
      refine s.holds_congr _ _ fun x hx => ?_
      rw [toNat_ofNat hp, toNat_ofNat hq]
      exact h x (by simp [pointsAt, hx])
    rw [holdsAt, holdsAt, hholds, decide_eq_true hp, decide_eq_true hq]
  · rw [holdsAt, holdsAt, decide_eq_false hp, decide_eq_false (mt hvalid.mpr hp), Bool.false_and,
      Bool.false_and]

theorem pairwise_pointsAt (s : CharClass) : s.pointsAt.mergeSort.Pairwise (· ≤ ·) := by
  have hsorted := @List.pairwise_mergeSort Nat (fun p q => decide (p ≤ q))
    (fun p q r => by simpa using Nat.le_trans) (fun p q => by simpa using Nat.le_total p q)
    s.pointsAt
  exact hsorted.imp of_decide_eq_true

theorem within_boundaries (s : CharClass) (p : Nat) : s.boundaries.within p = s.holdsAt p := by
  have hsorted : (0 :: s.pointsAt.mergeSort).Pairwise (· ≤ ·) :=
    List.pairwise_cons.mpr ⟨fun q _ => Nat.zero_le q, s.pairwise_pointsAt⟩
  -- no code point comes before the first of the points
  have hbefore (q : Nat) (h : ∀ x ∈ s.pointsAt.mergeSort, q < x) : s.holdsAt q = false :=
    absurd (h 0 (List.mem_mergeSort.mpr List.mem_cons_self)) (Nat.not_lt_zero q)
  have hsame (q r : Nat) (h : SameSide s.pointsAt.mergeSort q r) : s.holdsAt q = s.holdsAt r :=
    s.holdsAt_congr fun x hx => h x (List.mem_mergeSort.mpr hx)
  rw [boundaries, Boundaries.within_ofPoints hsorted (fun q _ => hbefore q)
    (fun q r _ _ => hsame q r) (Nat.zero_le p), Bool.bne_false]

/-- **The boundaries are those of the set**, and depend on nothing else: two
classes with the same characters have the same boundaries, whatever points
they come with. -/
theorem boundaries_congr {s t : CharClass} (h : ∀ c, s.holds c = t.holds c) :
    s.boundaries = t.boundaries := by
  refine Boundaries.eq_of_within (Boundaries.pairwise_ofPoints s.pairwise_pointsAt)
    (Boundaries.pairwise_ofPoints t.pairwise_pointsAt) fun p => ?_
  rw [s.within_boundaries, t.within_boundaries, holdsAt, holdsAt, h]

end CharClass

end Criteria.Unicode
