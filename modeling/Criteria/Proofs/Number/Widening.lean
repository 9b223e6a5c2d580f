import Criteria.Proofs.Number.Order
/-!
# Numbers — widening, and the order of what is widened

A number of a fixed width becomes one of three kinds without a change of its
value. For the integers that is what widening means. A word of 32 bits is
made into one of 64 field by field: all ones in the exponent stay all ones,
an exponent moves by the difference of the biases, and a fraction without a
leading one is shifted until it has one, since the wider format reaches
further down. So numbers order by the values they were written with.
-/

namespace Criteria

/-! ## Words of 32 bits -/

namespace Interchange

theorem isNegative_single (bits : UInt32) :
    single.isNegative bits.toNat = decide (Nat.pow 2 31 ≤ bits.toNat) := by
  have hbits : bits.toNat < 2 ^ 32 := bits.toNat_lt
  rw [Bool.eq_iff_iff]
  simp only [isNegative, single, Nat.pow_eq, beq_iff_eq, decide_eq_true_eq]
  omega

/-- Without a leading one the fraction counts steps of the least size of the
narrow format, each of them `2 ^ 925` of the wide one's. -/
theorem size_single_of_zero (bits : Nat) (h : single.exponentField bits = 0) :
    single.size bits = single.fractionField bits * (2 ^ 925 : Nat) * Binary64.leastSize := by
  have hwidth : single.fractionWidth = 23 := rfl
  have hbias : single.bias = 127 := by decide
  have hplaces : (1 - 127 : Int) = ((925 : Nat) : Int) + -1074 + (23 : Nat) := by norm_num
  rw [size, if_pos h, hwidth, hbias, hplaces, zpow_add₀ two_ne_zero, Binary64.two_zpow_add_least,
    zpow_natCast, Nat.cast_pow, Nat.cast_ofNat]
  field_simp

theorem size_single_of_ne_zero (bits : Nat) (h : single.exponentField bits ≠ 0) :
    single.size bits = (2 ^ 52 + single.fractionField bits * 2 ^ 29) *
      (2 : ℚ) ^ (single.exponentField bits + 895) * Binary64.leastSize := by
  have hwidth : single.fractionWidth = 23 := rfl
  have hbias : single.bias = 127 := by decide
  have hplaces : (single.exponentField bits : Int) - 127 =
      ((single.exponentField bits + 895 : Nat) : Int) + -1074 + (52 : Nat) := by
    push_cast
    ring
  rw [size, if_neg h, hwidth, hbias, hplaces, zpow_add₀ two_ne_zero, Binary64.two_zpow_add_least,
    zpow_natCast]
  field_simp

end Interchange

/-! ## The words they become -/

namespace Binary64

variable {m : Nat}

theorem isNegative_ofMagnitude (negative : Bool) (hm : m < 2 ^ 63) :
    (ofMagnitude negative m).isNegative = negative := by
  rw [Bool.eq_iff_iff, isNegative, decide_eq_true_iff]
  simp only [ofMagnitude, Nat.pow_eq, UInt64.toNat_ofNat']
  cases negative <;> simp <;> omega

theorem magnitude_ofMagnitude (negative : Bool) (hm : m < 2 ^ 63) :
    (ofMagnitude negative m).magnitude = m := by
  simp only [magnitude, ofMagnitude, Nat.pow_eq, UInt64.toNat_ofNat']
  cases negative <;> simp <;> omega

/-- The value of the word of a sign and a magnitude. -/
theorem value?_ofMagnitude (negative : Bool) (hm : m < 2 ^ 63) :
    (ofMagnitude negative m).value? =
      if infinity < m then none
      else if m = infinity then some (if negative then (⊥ : Extended) else ⊤)
      else some ((if negative then -(units m * leastSize) else units m * leastSize : ℚ) :
        Extended) := by
  rw [value?_eq, isNaN, isInfinite, toRat_eq, size_eq_units, isNegative_ofMagnitude negative hm,
    magnitude_ofMagnitude negative hm]
  simp only [decide_eq_true_eq, beq_iff_eq]

/-- The units of a magnitude with something in the exponent. -/
theorem units_of_fields {e f : Nat} (hf : f < 2 ^ 52) :
    units ((e + 1) * 2 ^ 52 + f) = (2 ^ 52 + f) * 2 ^ e := by
  have hexponent : ((e + 1) * 2 ^ 52 + f) / 2 ^ 52 = e + 1 := by omega
  have hfraction : ((e + 1) * 2 ^ 52 + f) % 2 ^ 52 = f := by omega
  rw [units, hexponent, hfraction, if_neg (Nat.succ_ne_zero e), Nat.add_sub_cancel]

/-- **A fraction that is shifted to a leading one keeps its size.** The bit
that the shift brings to the front carries into the exponent. -/
theorem units_of_shifted {f : Nat} (hzero : f ≠ 0) (hf : f < 2 ^ 23) :
    (f.log2 + 873) * 2 ^ 52 + f * 2 ^ (52 - f.log2) < infinity ∧
      units ((f.log2 + 873) * 2 ^ 52 + f * 2 ^ (52 - f.log2)) = f * 2 ^ 925 := by
  have htop : f.log2 < 23 := (Nat.log2_lt hzero).mpr hf
  have hlow : 2 ^ 52 ≤ f * 2 ^ (52 - f.log2) := by
    calc 2 ^ 52 = 2 ^ f.log2 * 2 ^ (52 - f.log2) := by rw [← pow_add]; congr 1; omega
      _ ≤ f * 2 ^ (52 - f.log2) := Nat.mul_le_mul_right _ (Nat.log2_self_le hzero)
  have hhigh : f * 2 ^ (52 - f.log2) < 2 ^ 53 := by
    calc f * 2 ^ (52 - f.log2) < 2 ^ (f.log2 + 1) * 2 ^ (52 - f.log2) :=
          Nat.mul_lt_mul_of_pos_right Nat.lt_log2_self (Nat.two_pow_pos _)
      _ = 2 ^ 53 := by rw [← pow_add]; congr 1; omega
  obtain ⟨g, hg⟩ := Nat.exists_eq_add_of_le hlow
  have hinfinity : infinity = 2047 * 2 ^ 52 := rfl
  have hcarry : (f.log2 + 873) * 2 ^ 52 + f * 2 ^ (52 - f.log2) =
      (f.log2 + 873 + 1) * 2 ^ 52 + g := by omega
  have hexponent : 52 - f.log2 + (f.log2 + 873) = 925 := by omega
  refine ⟨by omega, ?_⟩
  rw [hcarry, units_of_fields (by omega), ← hg, mul_assoc, ← pow_add, hexponent]

/-- What a word of 32 bits becomes, by its fields. -/
theorem ofBinary32_eq {bits : UInt32} {negative : Bool} {e f : Nat}
    (hnegative : Interchange.single.isNegative bits.toNat = negative)
    (he : Interchange.single.exponentField bits.toNat = e)
    (hf : Interchange.single.fractionField bits.toNat = f) :
    ofBinary32 bits =
      if e = 255 then ofMagnitude negative (infinity + f * 2 ^ 29)
      else if e = 0 then
        if f = 0 then ofMagnitude negative 0
        else ofMagnitude negative ((f.log2 + 873) * 2 ^ 52 + f * 2 ^ (52 - f.log2))
      else ofMagnitude negative ((e + 896) * 2 ^ 52 + f * 2 ^ 29) := by
  have he' : bits.toNat / Nat.pow 2 23 % Nat.pow 2 8 = e := he
  have hf' : bits.toNat % Nat.pow 2 23 = f := hf
  have htop : f.log2 + 1023 - 149 - 1 = f.log2 + 873 := by omega
  rw [ofBinary32, he', hf', ← Interchange.isNegative_single, hnegative]
  simp only [htop, Nat.pow_eq, Nat.reduceSub]

/-- **A word of 32 bits keeps its value**, whatever kind of word it is. -/
theorem value?_ofBinary32 (bits : UInt32) :
    (ofBinary32 bits).value? = Interchange.single.value? bits.toNat := by
  have hones : 2 ^ Interchange.single.exponentWidth - 1 = 255 := by decide
  have he : Interchange.single.exponentField bits.toNat < 256 := Nat.mod_lt _ (by decide)
  have hf : Interchange.single.fractionField bits.toNat < 2 ^ 23 := Nat.mod_lt _ (by decide)
  have hzero := Interchange.size_single_of_zero bits.toNat
  have hne := Interchange.size_single_of_ne_zero bits.toNat
  have hinfinity : infinity = 2047 * 2 ^ 52 := rfl
  rw [ofBinary32_eq rfl rfl rfl, Interchange.value?, Interchange.finite, hones]
  generalize Interchange.single.isNegative bits.toNat = negative
  generalize Interchange.single.size bits.toNat = size at hzero hne
  generalize Interchange.single.exponentField bits.toNat = e at *
  generalize Interchange.single.fractionField bits.toNat = f at *
  by_cases hall : e = 255
  · rw [if_pos hall, if_pos hall, value?_ofMagnitude _ (by omega)]
    by_cases hfraction : f = 0
    · simp [hfraction]
    · rw [if_pos (by omega), if_neg hfraction]
  rw [if_neg hall, if_neg hall]
  by_cases hnone : e = 0
  · rw [if_pos hnone, hzero hnone]
    by_cases hfraction : f = 0
    · have hunits : units 0 = 0 := rfl
      rw [if_pos hfraction, value?_ofMagnitude _ (by omega), if_neg (by omega), if_neg (by omega)]
      simp only [hfraction, hunits, Nat.cast_zero, zero_mul]
    · obtain ⟨hm, hunits⟩ := units_of_shifted hfraction hf
      rw [if_neg hfraction, value?_ofMagnitude _ (by omega), if_neg (by omega), if_neg (by omega),
        hunits, Nat.cast_mul]
  · have hunits : units ((e + 896) * 2 ^ 52 + f * 2 ^ 29) = (2 ^ 52 + f * 2 ^ 29) * 2 ^ (e + 895) :=
      units_of_fields (by omega)
    rw [if_neg hnone, hne hnone, value?_ofMagnitude _ (by omega), if_neg (by omega),
      if_neg (by omega), hunits]
    push_cast
    rfl

end Binary64

/-- **Widening keeps the value.** -/
theorem Primitive.value?_toNumber (p : Primitive) : p.toNumber.value? = p.value? := by
  cases p with
  | float32 bits => exact Binary64.value?_ofBinary32 bits
  | int64 | uint64 | float64 => rfl
  | _ => simp [toNumber, value?, Number.value?]

/-! ## The order of numbers -/

/-- **The comparison of numbers is exact.** Two numbers do not order exactly
where one of them is no number; otherwise they order as their values, the
same whichever of the three kinds each has, and numbers of fixed widths as
the values they were written with. -/
theorem Number.compare?_exact :
    (∀ a b : Number, (a.compare? b = none ↔ a.isNaN = true ∨ b.isNaN = true) ∧
      a.compare? b = Option.map₂ cmp a.value? b.value?) ∧
    ∀ x y : Primitive, x.toNumber.compare? y.toNumber = Option.map₂ cmp x.value? y.value? := by
  refine ⟨fun a b => ⟨?_, a.compare?_eq_cmp b⟩, fun x y => ?_⟩
  · rw [compare?_eq_cmp, Option.map₂_eq_none_iff, value?_eq_none_iff, value?_eq_none_iff]
  · rw [compare?_eq_cmp, x.value?_toNumber, y.value?_toNumber]

/-- An integer that no double can hold is above the double next to it. -/
example : (Number.signed 9007199254740993).compare? (.float ⟨0x4340000000000000⟩) = some .gt := by
  decide

end Criteria
