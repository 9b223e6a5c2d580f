/-!
# Sets of code points by their boundaries

A set of code points is held as the increasing list of the points where
membership changes: the first point in the set, the first one after it that
is not, and so on. `Boundaries.within` tells on which side a point lies.
Points on one side of all boundaries are in the set together, a set has one
list of boundaries (`eq_of_within`), and it is found among any points that
all of them belong to (`within_ofPoints`).
-/

namespace Criteria.Unicode

/-- Two points have reached the same of some others. -/
def SameSide (points : List Nat) (p q : Nat) : Prop := ∀ x ∈ points, x ≤ p ↔ x ≤ q

namespace SameSide

variable {points more : List Nat} {p q : Nat}

theorem left (h : SameSide (points ++ more) p q) : SameSide points p q :=
  fun x hx => h x (List.mem_append_left more hx)

theorem right (h : SameSide (points ++ more) p q) : SameSide more p q :=
  fun x hx => h x (List.mem_append_right points hx)

/-- On the same side of a point and of the next, both are the point or
neither is. -/
theorem eq_iff {x : Nat} (h : SameSide points p q) (hx : x ∈ points) (hnext : x + 1 ∈ points) :
    p = x ↔ q = x := by
  have hreached := h x hx
  have hpast := h (x + 1) hnext
  omega

/-- On the same side of all points up to a last one, both have reached it or
are one point. -/
theorem eq_or_le {last : Nat} (h : SameSide (List.range (last + 1)) p q) :
    p = q ∨ last ≤ p ∧ last ≤ q := by
  have hbelow {x : Nat} (hx : x < last) : p = x ↔ q = x :=
    h.eq_iff (List.mem_range.mpr (by omega)) (List.mem_range.mpr (by omega))
  by_cases hp : p < last
  · exact Or.inl ((hbelow hp).mp rfl).symm
  · by_cases hq : q < last
    · exact Or.inl ((hbelow hq).mpr rfl)
    · exact Or.inr (by omega)

end SameSide

/-- The points at which membership in a set changes, in order. -/
abbrev Boundaries := List Nat

namespace Boundaries

/-- Whether a code point lies in the set with these boundaries. -/
def within : Boundaries → Nat → Bool
  | [], _ => false
  | [first], p => first ≤ p
  | first :: past :: rest, p =>
      if p < first then false else if p < past then true else within rest p

/-- At its first boundary membership turns around. -/
theorem within_cons (first : Nat) (rest : Boundaries) (p : Nat) :
    within (first :: rest) p = (decide (first ≤ p) && !within rest p) := by
  match rest with
  | [] => simp [within]
  | [past] =>
    simp only [within]
    grind
  | past :: next :: rest =>
    have ih := within_cons next rest p
    simp only [within] at ih ⊢
    grind

theorem within_congr {b : Boundaries} {p q : Nat} (h : SameSide b p q) :
    within b p = within b q := by
  induction b with
  | nil => rfl
  | cons first rest ih =>
    have hfirst : decide (first ≤ p) = decide (first ≤ q) :=
      decide_eq_decide.mpr (h first List.mem_cons_self)
    rw [within_cons, within_cons, hfirst, ih fun x hx => h x (List.mem_cons_of_mem first hx)]

theorem within_of_forall_lt {b : Boundaries} {p : Nat} (h : ∀ x ∈ b, p < x) :
    within b p = false := by
  cases b with
  | nil => rfl
  | cons first rest =>
    rw [within_cons, decide_eq_false (Nat.not_le_of_lt (h first List.mem_cons_self)),
      Bool.false_and]

/-- A set begins with its first boundary. -/
theorem within_first {first : Nat} {rest : Boundaries} (h : (first :: rest).Pairwise (· < ·)) :
    within (first :: rest) first = true := by
  have hrest : within rest first = false := within_of_forall_lt (List.pairwise_cons.mp h).1
  rw [within_cons, hrest, decide_eq_true (Nat.le_refl first)]
  rfl

/-- A point within has reached the first boundary. -/
theorem first_le_of_within {first p : Nat} {rest : Boundaries}
    (h : within (first :: rest) p = true) : first ≤ p := by
  rw [within_cons, Bool.and_eq_true] at h
  exact of_decide_eq_true h.1

/-- **A set has one list of boundaries.** Two lists with the same points within
begin with the same point, where the first of these is, and past it their rests
have the same points within. -/
theorem eq_of_within {a b : Boundaries} (ha : a.Pairwise (· < ·)) (hb : b.Pairwise (· < ·))
    (h : ∀ p, within a p = within b p) : a = b := by
  induction a generalizing b with
  | nil =>
    cases b with
    | nil => rfl
    | cons y others => exact absurd ((h y).trans (within_first hb)) Bool.false_ne_true
  | cons x rest ih =>
    cases b with
    | nil => exact absurd ((h x).symm.trans (within_first ha)) Bool.false_ne_true
    | cons y others =>
      have hyx : y ≤ x := first_le_of_within ((h x).symm.trans (within_first ha))
      have hxy : x ≤ y := first_le_of_within ((h y).trans (within_first hb))
      obtain rfl : x = y := Nat.le_antisymm hxy hyx
      obtain ⟨hrest, ha'⟩ := List.pairwise_cons.mp ha
      obtain ⟨hothers, hb'⟩ := List.pairwise_cons.mp hb
      have hwithin (p : Nat) : within rest p = within others p := by
        by_cases hp : x ≤ p
        · have hp' := h p
          rw [within_cons, within_cons, decide_eq_true hp, Bool.true_and, Bool.true_and] at hp'
          exact Bool.not_inj hp'
        · rw [within_of_forall_lt fun z hz => by have := hrest z hz; omega,
            within_of_forall_lt fun z hz => by have := hothers z hz; omega]
      rw [ih ha' hb' hwithin]

/-- The stretches of a set, each with its first and last point. One without
an end goes up to the last code point. -/
def stretches : Boundaries → List (Nat × Nat)
  | [] => []
  | [first] => [(first, 0x10FFFF)]
  | first :: past :: rest => (first, past - 1) :: stretches rest

/-! ## From membership -/

/-- The boundaries of a set that changes at some of these points only, which
are in order. Whether the points before them are in the set is told by
`inside`. -/
def ofPoints (holds : Nat → Bool) (inside : Bool) : List Nat → Boundaries
  | [] => []
  | p :: rest =>
      if holds p = inside then ofPoints holds inside rest else p :: ofPoints holds (!inside) rest

variable {holds : Nat → Bool} {inside : Bool} {points : List Nat}

theorem mem_of_mem_ofPoints {x : Nat} (h : x ∈ ofPoints holds inside points) : x ∈ points := by
  induction points generalizing inside with
  | nil => exact h
  | cons p rest ih =>
    rw [ofPoints] at h
    split at h
    · exact List.mem_cons_of_mem p (ih h)
    · rcases List.mem_cons.mp h with rfl | hrest
      · exact List.mem_cons_self
      · exact List.mem_cons_of_mem p (ih hrest)

/-- Past a point from which membership is `inside`, the boundaries lie beyond
that point, since it turns around there. -/
theorem lt_of_mem_ofPoints {p y : Nat} (hsorted : (p :: points).Pairwise (· ≤ ·))
    (hp : holds p = inside) (hy : y ∈ ofPoints holds inside points) : p < y := by
  induction points with
  | nil => cases hy
  | cons x rest ih =>
    obtain ⟨hle, hpoints⟩ := List.pairwise_cons.mp hsorted
    obtain ⟨hx, hrest⟩ := List.pairwise_cons.mp hpoints
    rw [ofPoints] at hy
    split at hy
    case isTrue =>
      have hsorted' : (p :: rest).Pairwise (· ≤ ·) :=
        List.pairwise_cons.mpr ⟨fun z hz => hle z (List.mem_cons_of_mem x hz), hrest⟩
      exact ih hsorted' hy
    case isFalse hout =>
      have hne : p ≠ x := fun heq => hout (heq ▸ hp)
      have hlt : p < x := Nat.lt_of_le_of_ne (hle x List.mem_cons_self) hne
      rcases List.mem_cons.mp hy with rfl | hmem
      · exact hlt
      · exact Nat.lt_of_lt_of_le hlt (hx y (mem_of_mem_ofPoints hmem))

/-- Boundaries are found in order, and none of them twice. -/
theorem pairwise_ofPoints (hsorted : points.Pairwise (· ≤ ·)) :
    (ofPoints holds inside points).Pairwise (· < ·) := by
  induction points generalizing inside with
  | nil => exact List.Pairwise.nil
  | cons p rest ih =>
    have hrest := (List.pairwise_cons.mp hsorted).2
    rw [ofPoints]
    split
    case isTrue => exact ih hrest
    case isFalse hout =>
      have hturn : holds p = !inside := Bool.eq_not_of_ne hout
      exact List.pairwise_cons.mpr ⟨fun y hy => lt_of_mem_ofPoints hsorted hturn hy, ih hrest⟩

/-- **The boundaries found are those of the set**, from a start before all the
points. By induction on the points: the first of them is the start for the
rest, and membership there is what the rest begins with. -/
theorem within_ofPoints {start p : Nat}
    (hsorted : (start :: points).Pairwise (· ≤ ·))
    (hbefore : ∀ q, start ≤ q → (∀ x ∈ points, q < x) → holds q = inside)
    (hsame : ∀ q r, start ≤ q → start ≤ r → SameSide points q r → holds q = holds r)
    (hp : start ≤ p) : within (ofPoints holds inside points) p = (holds p != inside) := by
  induction points generalizing start inside with
  | nil =>
    rw [hbefore p hp nofun, bne_self_eq_false]
    rfl
  | cons x rest ih =>
    obtain ⟨hstart, hpoints⟩ := List.pairwise_cons.mp hsorted
    obtain ⟨hfirst, -⟩ := List.pairwise_cons.mp hpoints
    by_cases hpx : p < x
    · have hall : ∀ y ∈ x :: rest, p < y := fun y hy => by
        rcases List.mem_cons.mp hy with rfl | hmem
        · exact hpx
        · exact Nat.lt_of_lt_of_le hpx (hfirst y hmem)
      rw [hbefore p hp hall, bne_self_eq_false]
      exact within_of_forall_lt fun y hy => hall y (mem_of_mem_ofPoints hy)
    · have hx : x ≤ p := Nat.le_of_not_lt hpx
      have hle : start ≤ x := hstart x List.mem_cons_self
      have hside {q r : Nat} (hq : x ≤ q) (hr : x ≤ r) (h : SameSide rest q r) :
          holds q = holds r := by
        refine hsame q r (Nat.le_trans hle hq) (Nat.le_trans hle hr) fun y hy => ?_
        rcases List.mem_cons.mp hy with rfl | hmem
        · exact iff_of_true hq hr
        · exact h y hmem
      have hrest : within (ofPoints holds (holds x) rest) p = (holds p != holds x) := by
        refine ih hpoints (fun q hq hlt => hside hq (Nat.le_refl x) fun y hy => ?_)
          (fun q r hq hr => hside hq hr) hx
        have hqy := hlt y hy
        omega
      rw [ofPoints]
      split
      case isTrue hin => rw [← hin, hrest]
      case isFalse hout =>
        have hturn : holds x = !inside := Bool.eq_not_of_ne hout
        rw [within_cons, decide_eq_true hx, Bool.true_and, ← hturn, hrest, hturn]
        cases holds p <;> cases inside <;> rfl

end Boundaries

end Criteria.Unicode
