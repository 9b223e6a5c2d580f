import Criteria.Pattern.Matching
import Mathlib.Data.Nat.Bitwise
import Mathlib.Logic.Function.Iterate
/-!
# Patterns — the stretches they describe

A pattern describes stretches of a text, each from one position to another
and with the text around it. `Pattern.Spans` says which, by the pattern alone
and without a search: the parts of a sequence meet at some position, and a
repetition is some number of stretches in a row. The search keeps sets of
positions instead, and stops a repetition as soon as nothing is new; it
carries a set of starts to exactly the positions where a stretch from one of
them ends (`carries_ends`), so it finds a pattern where there is one to find
(`occursIn_iff`).
-/

namespace Criteria

/-! ## Rounds of a step

A step from position to position, some number of times. -/

/-- A number of steps in a row. -/
def Rounds (step : Nat → Nat → Prop) : Nat → Nat → Nat → Prop
  | 0, i, j => i = j
  | k + 1, i, j => ∃ m, step i m ∧ Rounds step k m j

namespace Rounds

variable {step : Nat → Nat → Prop} {i j k m : Nat}

/-- Some steps and then some more. -/
theorem add_iff {n : Nat} : Rounds step (k + n) i j ↔
    ∃ m, Rounds step k i m ∧ Rounds step n m j := by
  induction k generalizing i with
  | zero => simp [Rounds]
  | succ k ih =>
    rw [Nat.add_right_comm]
    constructor
    · rintro ⟨i', hstep, hrest⟩
      obtain ⟨m, hm, hj⟩ := ih.mp hrest
      exact ⟨m, ⟨i', hstep, hm⟩, hj⟩
    · rintro ⟨m, ⟨i', hstep, hm⟩, hj⟩
      exact ⟨i', hstep, ih.mpr ⟨m, hm, hj⟩⟩

/-- Steps that may stay in place come to fewer steps. -/
theorem or_eq_iff : Rounds (fun a b => a = b ∨ step a b) k i j ↔ ∃ n ≤ k, Rounds step n i j := by
  induction k generalizing i with
  | zero => simp [Rounds]
  | succ k ih =>
    constructor
    · rintro ⟨m, rfl | hstep, hrest⟩
      · obtain ⟨n, hn, h⟩ := ih.mp hrest
        exact ⟨n, Nat.le_succ_of_le hn, h⟩
      · obtain ⟨n, hn, h⟩ := ih.mp hrest
        exact ⟨n + 1, Nat.succ_le_succ hn, m, hstep, h⟩
    · rintro ⟨n, hn, h⟩
      cases n with
      | zero =>
        obtain rfl : i = j := h
        exact ⟨i, Or.inl rfl, ih.mpr ⟨0, Nat.zero_le k, rfl⟩⟩
      | succ n =>
        obtain ⟨m, hstep, hrest⟩ := h
        exact ⟨m, Or.inr hstep, ih.mpr ⟨n, Nat.le_of_succ_le_succ hn, hrest⟩⟩

/-- **Steps that do not go back need no more rounds than there are positions to
pass**: a round that stays in place can be left out. -/
theorem exists_le_sub (hstep : ∀ a b, step a b → a ≤ b) (h : Rounds step k i j) :
    i ≤ j ∧ ∃ n ≤ j - i, Rounds step n i j := by
  induction k generalizing i with
  | zero =>
    obtain rfl : i = j := h
    exact ⟨le_rfl, 0, Nat.zero_le _, rfl⟩
  | succ k ih =>
    obtain ⟨m, him, hrest⟩ := h
    obtain ⟨hmj, n, hn, hshort⟩ := ih hrest
    have hle := hstep i m him
    refine ⟨hle.trans hmj, ?_⟩
    rcases hle.eq_or_lt with rfl | hlt
    · exact ⟨n, hn, hshort⟩
    · exact ⟨n + 1, by omega, m, him, hshort⟩

end Rounds

/-! ## Sets of positions -/

theorem testBit_positionsOf {α : Type} (p : α → Bool) (row : List α) (i : Nat) :
    (positionsOf p row).testBit i = row[i]?.any p := by
  induction row generalizing i with
  | nil => simp [positionsOf]
  | cons a rest ih =>
    rw [positionsOf, ← Nat.bit_val]
    cases i with
    | zero => exact Nat.testBit_bit_zero _ _
    | succ i => exact (Nat.testBit_bit_succ _ _ _).trans (ih i)

/-- The places of a text stand at its positions, each between two neighbours. -/
theorem getElem?_places (before : Option Char) (text : List Char) (i : Nat) :
    (places before text)[i]? =
      if i ≤ text.length then some (if i = 0 then before else text[i - 1]?, text[i]?) else none := by
  induction text generalizing before i with
  | nil => cases i <;> simp [places]
  | cons c rest ih =>
    cases i with
    | zero => simp [places]
    | succ i =>
      rw [places, List.getElem?_cons_succ, ih]
      cases i <;> simp

/-- A function on sets of positions takes from each position of the set the
steps of a relation. -/
def Carries (f : Nat → Nat) (step : Nat → Nat → Prop) : Prop :=
  ∀ s j, (f s).testBit j = true ↔ ∃ i, s.testBit i = true ∧ step i j

namespace Carries

variable {f g : Nat → Nat} {step step' : Nat → Nat → Prop}

/-- One function after the other takes a step of each. -/
theorem comp (hg : Carries g step') (hf : Carries f step) :
    Carries (fun s => g (f s)) fun i j => ∃ m, step i m ∧ step' m j := by
  intro s j
  rw [hg]
  constructor
  · rintro ⟨m, hm, hj⟩
    obtain ⟨i, hi, hstep⟩ := (hf s m).mp hm
    exact ⟨i, hi, m, hstep, hj⟩
  · rintro ⟨i, hi, m, hstep, hj⟩
    exact ⟨m, (hf s m).mpr ⟨i, hi, hstep⟩, hj⟩

/-- Two functions side by side take a step of either. -/
theorem or (hf : Carries f step) (hg : Carries g step') :
    Carries (fun s => f s ||| g s) fun i j => step i j ∨ step' i j := by
  intro s j
  rw [Nat.testBit_or, Bool.or_eq_true, hf, hg, ← exists_or]
  exact exists_congr fun i => and_or_left.symm

theorem id : Carries (fun s => s) Eq := by
  intro s j
  simp

theorem iterate (hf : Carries f step) (k : Nat) : Carries f^[k] (Rounds step k) := by
  induction k with
  | zero => exact id
  | succ k ih => exact ih.comp hf

end Carries

/-- What stops where nothing changes is the plain iteration. -/
theorem exactly_eq_iterate (f : Nat → Nat) (k s : Nat) : exactly f k s = f^[k] s := by
  induction k generalizing s with
  | zero => rfl
  | succ k ih =>
    rw [exactly, Function.iterate_succ_apply]
    by_cases hfix : f s = s
    · rw [if_pos hfix, hfix, Function.iterate_fixed hfix]
    · rw [if_neg hfix, ih]

theorem upTo_eq_exactly (f : Nat → Nat) (k s : Nat) :
    upTo f k s = exactly (fun t => t ||| f t) k s := by
  induction k generalizing s with
  | zero => rfl
  | succ k ih => simp only [upTo, exactly, ih]

namespace Carries

variable {f : Nat → Nat} {step : Nat → Nat → Prop}

theorem exactly (hf : Carries f step) (k : Nat) : Carries (exactly f k) (Rounds step k) := by
  intro s j
  rw [exactly_eq_iterate]
  exact hf.iterate k s j

theorem upTo (hf : Carries f step) (k : Nat) :
    Carries (upTo f k) fun i j => ∃ n ≤ k, Rounds step n i j := by
  intro s j
  rw [upTo_eq_exactly, (id.or hf).exactly k]
  exact exists_congr fun i => and_congr_right fun _ => Rounds.or_eq_iff

end Carries

/-! ## Stretches -/

namespace Pattern

/-- The pattern describes the stretch of a text from one position to another. A
repetition has its least number of rounds, and more as far as it allows. -/
def Spans (text : List Char) : Pattern CharSet Anchor → Nat → Nat → Prop
  | empty, i, j => i = j
  | one set, i, j => text[i]?.any set = true ∧ j = i + 1
  | look anchor, i, j =>
      (places none text)[i]?.any (fun (b, c) => anchor.holds b c) = true ∧ j = i
  | seq first second, i, j => ∃ m, first.Spans text i m ∧ second.Spans text m j
  | either left right, i, j => left.Spans text i j ∨ right.Spans text i j
  | loop least most body, i, j =>
      ∃ more, (∀ n, most = some n → more ≤ n - least) ∧
        Rounds (body.Spans text) (least + more) i j

variable {text : List Char} {p : Pattern CharSet Anchor} {i j : Nat}

/-- A stretch does not end before it starts, nor beyond the text unless it
starts there. -/
theorem Spans.bounds (h : p.Spans text i j) : i ≤ j ∧ (j = i ∨ j ≤ text.length) := by
  induction p generalizing i j with
  | empty => exact ⟨h.le, Or.inl h.symm⟩
  | one set =>
    obtain ⟨hset, rfl⟩ := h
    obtain ⟨c, hc, -⟩ := (Option.any_eq_true _ _).mp hset
    have hlt := (List.getElem?_eq_some_iff.mp hc).1
    omega
  | look anchor => exact ⟨h.2.ge, Or.inl h.2⟩
  | seq first second ihfirst ihsecond =>
    obtain ⟨m, hfirst, hsecond⟩ := h
    have him := ihfirst hfirst
    have hmj := ihsecond hsecond
    omega
  | either left right ihleft ihright => exact h.elim ihleft ihright
  | loop least most body ih =>
    obtain ⟨more, -, hrounds⟩ := h
    generalize least + more = k at hrounds
    induction k generalizing i with
    | zero =>
      obtain rfl : i = j := hrounds
      exact ⟨le_rfl, Or.inl rfl⟩
    | succ k ihk =>
      obtain ⟨m, hbody, hrest⟩ := hrounds
      have him := ih hbody
      have hmj := ihk hrest
      omega

/-- A place is asked about its neighbours, which a text lacks at its ends. -/
theorem spans_look_iff {anchor : Anchor} : (look anchor).Spans text i j ↔
    i ≤ text.length ∧ anchor.holds (if i = 0 then none else text[i - 1]?) text[i]? = true ∧ j = i := by
  rw [Spans, getElem?_places]
  split <;> simp [*]

/-- The start of the text is its first position. -/
theorem spans_textStart : (look .textStart).Spans text i j ↔ i = 0 ∧ j = 0 := by
  rw [spans_look_iff, Anchor.holds]
  constructor
  · rintro ⟨hle, hnone, rfl⟩
    by_cases hj : j = 0
    · exact ⟨hj, hj⟩
    · rw [if_neg hj, Option.isNone_iff_eq_none, List.getElem?_eq_none_iff] at hnone
      omega
  · rintro ⟨rfl, rfl⟩
    exact ⟨Nat.zero_le _, rfl, rfl⟩

/-- And its end the last. -/
theorem spans_textEnd : (look .textEnd).Spans text i j ↔ i = text.length ∧ j = text.length := by
  rw [spans_look_iff, Anchor.holds, Option.isNone_iff_eq_none, List.getElem?_eq_none_iff]
  omega

/-- **The search keeps what the pattern describes.** From a set of starts it
comes to the positions where the stretches that begin there end. -/
theorem carries_ends (text : List Char) (p : Pattern CharSet Anchor) :
    Carries ((p.onText text).ends (text.length + 1)) (p.Spans text) := by
  induction p with
  | empty => exact Carries.id
  | one set =>
    intro s j
    rw [onText, map, ends, Nat.testBit_shiftLeft]
    cases j with
    | zero => simp [Spans]
    | succ j => simp [Spans, Nat.testBit_and, testBit_positionsOf]
  | look anchor =>
    intro s j
    rw [onText, map, ends, Nat.testBit_and, testBit_positionsOf]
    simp [Spans]
  | seq first second ihfirst ihsecond => exact ihsecond.comp ihfirst
  | either left right ihleft ihright => exact ihleft.or ihright
  | loop least most body ih =>
    intro s j
    refine ((ih.upTo _).comp (ih.exactly least) s j).trans (exists_congr fun i =>
      and_congr_right fun _ => ⟨?_, ?_⟩)
    · rintro ⟨m, hleast, n, hn, hmore⟩
      refine ⟨n, fun bound hbound => ?_, Rounds.add_iff.mpr ⟨m, hleast, hmore⟩⟩
      subst hbound
      exact hn
    · rintro ⟨more, hmost, hrounds⟩
      obtain ⟨m, hleast, hmore⟩ := Rounds.add_iff.mp hrounds
      refine ⟨m, hleast, ?_⟩
      cases most with
      | some bound => exact ⟨more, hmost bound rfl, hmore⟩
      | none =>
        -- the stretches go forward, so the rounds that the search makes are enough
        obtain ⟨hmj, n, hn, hshort⟩ := hmore.exists_le_sub fun a b h => h.bounds.1
        have hspan : (loop 0 none body).Spans text m j := ⟨n, by simp, by rwa [Nat.zero_add]⟩
        have hbounds := hspan.bounds
        exact ⟨n, by simp only; omega, hshort⟩

/-- **A pattern is found where there is one to find.** -/
theorem occursIn_iff : p.occursIn text = true ↔ ∃ i ≤ text.length, ∃ j, p.Spans text i j := by
  have hstarts (i : Nat) : (1 <<< (text.length + 1) - 1).testBit i = true ↔ i ≤ text.length := by
    rw [Nat.one_shiftLeft, Nat.testBit_two_pow_sub_one, decide_eq_true_iff, Nat.lt_succ_iff]
  rw [occursIn, bne_iff_ne]
  constructor
  · intro h
    obtain ⟨j, hj⟩ := Nat.exists_testBit_of_ne_zero h
    obtain ⟨i, hi, hspan⟩ := (carries_ends text p _ j).mp hj
    exact ⟨i, (hstarts i).mp hi, j, hspan⟩
  · rintro ⟨i, hi, j, hspan⟩ hzero
    have hj := (carries_ends text p _ j).mpr ⟨i, (hstarts i).mpr hi, hspan⟩
    rw [hzero, Nat.zero_testBit] at hj
    cases hj

end Pattern

end Criteria
