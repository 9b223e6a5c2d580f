import Criteria.Proofs.Number.Exact
/-!
# Numbers — the order of the exact values

Two doubles are ordered by their keys, an integer and a double by the whole
part of the double and what is left of it. Neither reads a value, and both
give the order of the values. Keys: a finite word is a whole multiple of the
least size above zero, and the multiples grow with the magnitudes. Whole
parts: between the integers next to a value no other integer lies, so the
rest decides only against the whole part itself; and one that 128 bits do
not hold is beyond all integers of 64.
-/

namespace Criteria

/-- Rationals order among the infinities as among themselves. -/
theorem cmp_extended (p q : ℚ) : cmp (p : Extended) (q : Extended) = cmp p q :=
  (WithBot.coe_strictMono.comp WithTop.coe_strictMono).cmp_map_eq p q

namespace Binary64

variable (x : Binary64)

/-! ## Keys -/

/-- The least size above zero. -/
def leastSize : ℚ := 2 ^ (-1074 : Int)

theorem leastSize_pos : 0 < leastSize := zpow_pos two_pos _

theorem two_zpow_add_least (k : Nat) : (2 : ℚ) ^ ((k : Int) + -1074) = 2 ^ k * leastSize := by
  rw [zpow_add₀ two_ne_zero, zpow_natCast, leastSize]

/-- How often the least size goes into a finite word of a magnitude. -/
def units (m : Nat) : Nat :=
  if m / 2 ^ 52 = 0 then m % 2 ^ 52 else (2 ^ 52 + m % 2 ^ 52) * 2 ^ (m / 2 ^ 52 - 1)

/-- **The next magnitude is larger in value**, also where the fraction is
full and carries into the exponent. -/
theorem units_lt_succ (m : Nat) : units m < units (m + 1) := by
  unfold units
  by_cases hcarry : (m + 1) % 2 ^ 52 = 0
  · have hfull : m % 2 ^ 52 = 2 ^ 52 - 1 := by omega
    have hnext : (m + 1) / 2 ^ 52 = m / 2 ^ 52 + 1 := by omega
    rw [hcarry, hnext, hfull, if_neg (Nat.succ_ne_zero (m / 2 ^ 52)), Nat.add_sub_cancel]
    rcases Nat.eq_zero_or_pos (m / 2 ^ 52) with he | he
    · rw [if_pos he, he]
      norm_num
    · rw [if_neg he.ne']
      have hpow : 2 ^ (m / 2 ^ 52) = 2 * 2 ^ (m / 2 ^ 52 - 1) := by
        rw [← Nat.pow_succ', Nat.succ_eq_add_one, Nat.sub_add_cancel he]
      have hpos : 0 < 2 ^ (m / 2 ^ 52 - 1) := Nat.two_pow_pos _
      rw [hpow]
      omega
  · have hfraction : (m + 1) % 2 ^ 52 = m % 2 ^ 52 + 1 := by omega
    have hsame : (m + 1) / 2 ^ 52 = m / 2 ^ 52 := by omega
    rw [hfraction, hsame]
    split
    · omega
    · exact Nat.mul_lt_mul_of_pos_right (by omega) (Nat.two_pow_pos _)

theorem units_strictMono : StrictMono units := strictMono_nat_of_lt_succ units_lt_succ

theorem size_eq_units :
    x.significand * (2 : ℚ) ^ x.exponent = units x.magnitude * leastSize := by
  unfold significand exponent units exponentBits fractionBits
  simp only [Nat.pow_eq]
  split
  · rw [leastSize]
  · have hplaces : ((x.magnitude / 2 ^ 52 : Nat) : Int) - 1075 =
        ((x.magnitude / 2 ^ 52 - 1 : Nat) : Int) + -1074 := by omega
    rw [hplaces, two_zpow_add_least]
    push_cast
    rw [mul_assoc]

/-- The value of the finite words of a key. -/
def ofKey (key : Int) : ℚ :=
  (if 0 ≤ key then units key.natAbs else -units key.natAbs : ℚ) * leastSize

theorem toRat_eq_ofKey : x.toRat = ofKey x.orderKey := by
  rw [toRat_eq, size_eq_units, ofKey, orderKey]
  split
  · rw [Int.natAbs_neg, Int.natAbs_natCast]
    split
    · -- the negative zero, which has the key of the other one
      have hzero : x.magnitude = 0 := by omega
      simp [hzero, units]
    · ring
  · rw [if_pos (by omega), Int.natAbs_natCast]

theorem ofKey_neg (key : Int) : ofKey (-key) = -ofKey key := by
  unfold ofKey
  rw [Int.natAbs_neg]
  rcases lt_trichotomy key 0 with h | rfl | h
  · rw [if_pos (by omega), if_neg (by omega)]; ring
  · simp [units]
  · rw [if_neg (by omega), if_pos (by omega)]; ring

theorem ofKey_strictMono : StrictMono ofKey := by
  refine strictMono_of_odd_strictMonoOn_nonneg ofKey_neg fun a ha b hb hab => ?_
  have ha : 0 ≤ a := ha
  have hb : 0 ≤ b := hb
  have hunits : units a.natAbs < units b.natAbs := units_strictMono (by omega)
  have hcast : (units a.natAbs : ℚ) < units b.natAbs := by exact_mod_cast hunits
  rw [ofKey, ofKey, if_pos ha, if_pos hb]
  exact mul_lt_mul_of_pos_right hcast leastSize_pos

/-- The value of the words of a key, the infinities among them. -/
def extendedOfKey (key : Int) : Extended :=
  if key = infinity then ⊤ else if key = -infinity then ⊥ else (ofKey key : ℚ)

/-- **Up to the infinities the values grow with the keys.** -/
theorem extendedOfKey_strictMonoOn :
    StrictMonoOn extendedOfKey (Set.Icc (-infinity) infinity) := by
  intro a ⟨ha, _⟩ b ⟨_, hb⟩ hab
  unfold extendedOfKey
  rw [if_neg (by omega : a ≠ infinity), if_neg (by omega : b ≠ -infinity)]
  by_cases hbot : a = -infinity <;> by_cases htop : b = infinity
  · rw [if_pos hbot, if_pos htop]; exact bot_lt_top
  · rw [if_pos hbot, if_neg htop]; exact WithBot.bot_lt_coe _
  · rw [if_neg hbot, if_pos htop]; exact WithBot.coe_lt_coe.mpr (WithTop.coe_lt_top _)
  · rw [if_neg hbot, if_neg htop]
    exact WithBot.coe_lt_coe.mpr (WithTop.coe_lt_coe.mpr (ofKey_strictMono hab))

theorem orderKey_mem_Icc (h : x.isNaN = false) :
    x.orderKey ∈ Set.Icc (-infinity : Int) infinity := by
  have hle : x.magnitude ≤ infinity := by simpa [isNaN] using h
  unfold orderKey
  split <;> constructor <;> omega

theorem value?_eq_extendedOfKey (h : x.isNaN = false) :
    x.value? = some (extendedOfKey x.orderKey) := by
  have hpos : 0 < infinity := by decide
  rw [value?_eq, h, if_neg Bool.false_ne_true, toRat_eq_ofKey, extendedOfKey]
  by_cases hinfinite : x.magnitude = infinity
  · rw [isInfinite, hinfinite, beq_self_eq_true, if_pos rfl, orderKey, hinfinite]
    split
    · rw [if_neg (by omega), if_pos rfl]
    · rw [if_pos rfl]
  · have hne : x.orderKey ≠ infinity ∧ x.orderKey ≠ -infinity := by
      unfold orderKey
      split <;> constructor <;> omega
    rw [isInfinite, beq_eq_false_iff_ne.mpr hinfinite, if_neg Bool.false_ne_true, if_neg hne.1,
      if_neg hne.2]

/-- **Two doubles order as their values do.** -/
theorem compare?_eq_cmp (x y : Binary64) : x.compare? y = Option.map₂ cmp x.value? y.value? := by
  rw [compare?]
  cases hx : x.isNaN with
  | true => simp [value?_eq, hx]
  | false =>
    cases hy : y.isNaN with
    | true => simp [value?_eq, hy]
    | false =>
      rw [x.value?_eq_extendedOfKey hx, y.value?_eq_extendedOfKey hy, Option.map₂_some_some,
        extendedOfKey_strictMonoOn.cmp_map_eq (x.orderKey_mem_Icc hx) (y.orderKey_mem_Icc hy),
        cmp_eq_compare]
      rfl

/-! ## Whole parts -/

/-- A quotient by a power of two has no remainder and is whole, or has one
and lies above its whole part and below the next integer. -/
theorem div_two_pow_cases (s k : Nat) :
    (s % 2 ^ k = 0 ∧ (s : ℚ) / 2 ^ k = (s / 2 ^ k : Nat)) ∨
      s % 2 ^ k ≠ 0 ∧ ((s / 2 ^ k : Nat) : ℚ) < s / 2 ^ k ∧
        (s : ℚ) / 2 ^ k < (s / 2 ^ k : Nat) + 1 := by
  have hpos : (0 : ℚ) < 2 ^ k := by positivity
  have hsplit : (s : ℚ) = 2 ^ k * (s / 2 ^ k : Nat) + (s % 2 ^ k : Nat) := by
    exact_mod_cast (Nat.div_add_mod s (2 ^ k)).symm
  have hquotient : (s : ℚ) / 2 ^ k = (s / 2 ^ k : Nat) + (s % 2 ^ k : Nat) / 2 ^ k := by
    rw [div_eq_iff hpos.ne', add_mul, div_mul_cancel₀ _ hpos.ne', mul_comm _ ((2 : ℚ) ^ k)]
    exact hsplit
  rw [hquotient]
  by_cases hrest : s % 2 ^ k = 0
  · exact Or.inl ⟨hrest, by rw [hrest]; simp⟩
  · have hrestpos : (0 : ℚ) < (s % 2 ^ k : Nat) := by exact_mod_cast Nat.pos_of_ne_zero hrest
    have hrestlt : ((s % 2 ^ k : Nat) : ℚ) < 2 ^ k := by
      exact_mod_cast Nat.mod_lt s (Nat.two_pow_pos k)
    refine Or.inr ⟨hrest, ?_, ?_⟩
    · exact lt_add_of_pos_right _ (div_pos hrestpos hpos)
    · exact add_lt_add_right ((div_lt_one hpos).mpr hrestlt) _

/-- **The whole part is the value cut toward zero.** -/
theorem whole_cases :
    (x.hasFraction = false ∧ x.toRat = x.whole) ∨
      (x.hasFraction = true ∧ x.isNegative = false ∧
        (x.whole : ℚ) < x.toRat ∧ x.toRat < x.whole + 1) ∨
      x.hasFraction = true ∧ x.isNegative = true ∧
        (x.whole : ℚ) - 1 < x.toRat ∧ x.toRat < x.whole := by
  rw [toRat_eq, hasFraction, whole]
  cases x.exponent with
  | ofNat e =>
    refine Or.inl ⟨rfl, ?_⟩
    simp only [Nat.pow_eq]
    split <;> push_cast <;> rfl
  | negSucc e =>
    have hsize : (x.significand : ℚ) * 2 ^ Int.negSucc e = x.significand / 2 ^ (e + 1) := by
      rw [zpow_negSucc, div_eq_mul_inv]
    have hcases := div_two_pow_cases x.significand (e + 1)
    simp only [Nat.pow_eq, hsize]
    -- from here on only the quotient and its whole part matter
    generalize (x.significand : ℚ) / 2 ^ (e + 1) = q at hcases
    generalize x.significand / 2 ^ (e + 1) = w at hcases
    rcases hcases with ⟨hrest, rfl⟩ | ⟨hrest, hlow, hhigh⟩
    · refine Or.inl ⟨by simp [hrest], ?_⟩
      split <;> simp
    · refine Or.inr ?_
      cases x.isNegative with
      | false => exact Or.inl ⟨by simp [hrest], rfl, by simpa using hlow, by simpa using hhigh⟩
      | true =>
        refine Or.inr ⟨by simp [hrest], rfl, ?_, ?_⟩ <;>
        · simp only [if_true, Int.cast_neg, Int.cast_natCast]
          linarith

/-- An integer orders against a value as against its whole part, and where
it is the whole part the rest decides. -/
theorem cmp_toRat (n : Int) :
    cmp (n : ℚ) x.toRat = match compare n x.whole with
      | .eq => if x.hasFraction then (if x.isNegative then .gt else .lt) else .eq
      | other => other := by
  have hcases := x.whole_cases
  rcases lt_trichotomy n x.whole with hn | hn | hn
  · have hle : (n : ℚ) ≤ x.whole - 1 := by exact_mod_cast Int.le_sub_one_of_lt hn
    have hlt : (n : ℚ) < x.toRat := by
      rcases hcases with ⟨-, h⟩ | ⟨-, -, h, -⟩ | ⟨-, -, h, -⟩ <;> linarith
    rw [compare_lt_iff_lt.mpr hn, (cmp_eq_lt_iff _ _).mpr hlt]
  · have heq : (n : ℚ) = x.whole := by exact_mod_cast hn
    rw [compare_eq_iff_eq.mpr hn]
    rcases hcases with ⟨hf, h⟩ | ⟨hf, hs, h, -⟩ | ⟨hf, hs, -, h⟩
    · simp [hf, heq, h]
    · simp [hf, hs, heq, h, cmp_eq_lt_iff]
    · simp [hf, hs, heq, h, cmp_eq_gt_iff]
  · have hle : (x.whole : ℚ) + 1 ≤ n := by exact_mod_cast Int.add_one_le_of_lt hn
    have hgt : x.toRat < (n : ℚ) := by
      rcases hcases with ⟨-, h⟩ | ⟨-, -, -, h⟩ | ⟨-, -, -, h⟩ <;> linarith
    rw [compare_gt_iff_gt.mpr hn, (cmp_eq_gt_iff _ _).mpr hgt]

/-- A whole part that 128 bits do not hold orders against an integer that
they do hold as its sign says, so the cut-offs change nothing. -/
theorem compareInt?_of_finite {n : Int} (hn : n ∈ Set.Ico (-wholeLimit : Int) wholeLimit)
    (hnumber : x.isNaN = false) (hfinite : x.isInfinite = false) :
    x.compareInt? n = some (match compare n x.whole with
      | .eq => if x.hasFraction then (if x.isNegative then .gt else .lt) else .eq
      | other => other) := by
  obtain ⟨hlow, hhigh⟩ := hn
  rw [compareInt?, hnumber, hfinite, if_neg Bool.false_ne_true, if_neg Bool.false_ne_true]
  by_cases habove : wholeLimit ≤ x.whole
  · rw [if_pos habove, compare_lt_iff_lt.mpr (hhigh.trans_le habove)]
  by_cases hbelow : x.whole < -wholeLimit
  · rw [if_neg habove, if_pos hbelow, compare_gt_iff_gt.mpr (hbelow.trans_le hlow)]
  · rw [if_neg habove, if_neg hbelow]
    cases compare n x.whole <;> rfl

/-- **An integer and a double order as their values do.** -/
theorem compareInt?_eq_cmp {n : Int} (hn : n ∈ Set.Ico (-wholeLimit : Int) wholeLimit) :
    x.compareInt? n = x.value?.map (cmp ((n : ℚ) : Extended)) := by
  rw [value?_eq]
  cases hnumber : x.isNaN with
  | true => rw [compareInt?, hnumber]; rfl
  | false =>
    cases hfinite : x.isInfinite with
    | false =>
      rw [compareInt?_of_finite x hn hnumber hfinite, if_neg Bool.false_ne_true,
        if_neg Bool.false_ne_true, Option.map_some, cmp_extended, cmp_toRat]
    | true =>
      rw [compareInt?, hnumber, hfinite]
      cases x.isNegative with
      | false =>
        have hlt : ((n : ℚ) : Extended) < ⊤ := WithBot.coe_lt_coe.mpr (WithTop.coe_lt_top _)
        simp [(cmp_eq_lt_iff _ _).mpr hlt]
      | true =>
        have hgt : (⊥ : Extended) < ((n : ℚ) : Extended) := WithBot.bot_lt_coe _
        simp [(cmp_eq_gt_iff _ _).mpr hgt]

/-- The other way round too. -/
theorem swap_compareInt?_eq_cmp {n : Int} (hn : n ∈ Set.Ico (-wholeLimit : Int) wholeLimit) :
    (x.compareInt? n).map Ordering.swap = x.value?.map (cmp · ((n : ℚ) : Extended)) := by
  rw [compareInt?_eq_cmp x hn, Option.map_map]
  refine congrArg (Option.map · x.value?) (funext fun v => ?_)
  exact cmp_swap _ _

/-- Integers of 64 bits are within the limit, without a sign or with one. -/
theorem toNat_mem_Ico (n : UInt64) :
    (n.toNat : Int) ∈ Set.Ico (-wholeLimit : Int) wholeLimit := by
  have hn : n.toNat < 2 ^ 64 := n.toNat_lt
  have hlimit : wholeLimit = 2 ^ 127 := rfl
  constructor <;> omega

theorem toInt_mem_Ico (n : Int64) : n.toInt ∈ Set.Ico (-wholeLimit : Int) wholeLimit := by
  have hlow : -2 ^ 63 ≤ n.toInt := n.le_toInt
  have hhigh : n.toInt < 2 ^ 63 := n.toInt_lt
  have hlimit : wholeLimit = 2 ^ 127 := rfl
  constructor <;> omega

end Binary64

/-! ## Integers of two kinds -/

theorem compare_natCast (m n : Nat) : compare (m : Int) (n : Int) = compare m n := by
  rw [← cmp_eq_compare, ← cmp_eq_compare, Nat.strictMono_cast.cmp_map_eq]

/-- A negative integer is below every natural number, and another one is a
natural number itself. -/
theorem compare_natCast_right (n : Int) (m : Nat) :
    compare n (m : Int) = if n < 0 then .lt else compare n.toNat m := by
  split
  · exact compare_lt_iff_lt.mpr (by omega)
  · rw [← compare_natCast, Int.toNat_of_nonneg (by omega)]

theorem compare_natCast_left (m : Nat) (n : Int) :
    compare (m : Int) n = if n < 0 then .gt else compare m n.toNat := by
  split
  · exact compare_gt_iff_gt.mpr (by omega)
  · rw [← compare_natCast, Int.toNat_of_nonneg (by omega)]

theorem cmp_intCast (m n : Int) : cmp ((m : ℚ) : Extended) ((n : ℚ) : Extended) = compare m n := by
  rw [cmp_extended, Int.cast_strictMono.cmp_map_eq, cmp_eq_compare]

namespace Number

/-- An unsigned integer has the value of the integer it is. -/
theorem value?_unsigned (n : UInt64) : (unsigned n).value? = some (((n.toNat : Int) : ℚ) : Extended) := by
  rw [Int.cast_natCast]
  rfl

/-- **Two numbers of whatever kinds order as their values do.** -/
theorem compare?_eq_cmp (a b : Number) : a.compare? b = Option.map₂ cmp a.value? b.value? := by
  cases a with
  | signed m =>
    cases b with
    | signed n => rw [value?, value?, Option.map₂_some_some, cmp_intCast, compare?]
    | unsigned n =>
      rw [value?_unsigned, value?, Option.map₂_some_some, cmp_intCast, compare_natCast_right,
        compare?]
    | float y => exact y.compareInt?_eq_cmp (Binary64.toInt_mem_Ico m)
  | unsigned m =>
    cases b with
    | signed n =>
      rw [value?_unsigned, value?, Option.map₂_some_some, cmp_intCast, compare_natCast_left,
        compare?]
    | unsigned n =>
      rw [value?_unsigned, value?_unsigned, Option.map₂_some_some, cmp_intCast, compare_natCast,
        compare?]
    | float y =>
      rw [value?_unsigned]
      exact y.compareInt?_eq_cmp (Binary64.toNat_mem_Ico m)
  | float x =>
    cases b with
    | signed n =>
      rw [value?, value?, Option.map₂_coe_right]
      exact x.swap_compareInt?_eq_cmp (Binary64.toInt_mem_Ico n)
    | unsigned n =>
      rw [value?_unsigned, value?, Option.map₂_coe_right]
      exact x.swap_compareInt?_eq_cmp (Binary64.toNat_mem_Ico n)
    | float y => exact x.compare?_eq_cmp y

/-- Numbers of one value order alike against every other. -/
theorem compare?_congr_right {a b c : Number} (h : b.compare? c = some .eq) :
    a.compare? b = a.compare? c := by
  rw [compare?_eq_cmp] at h
  obtain ⟨v, w, hv, hw, hvw⟩ := Option.map₂_eq_some_iff.mp h
  rw [compare?_eq_cmp, compare?_eq_cmp, hv, hw, (cmp_eq_eq_iff _ _).mp hvw]

end Number

end Criteria
