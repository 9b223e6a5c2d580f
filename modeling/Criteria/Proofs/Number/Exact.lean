import Criteria.Number.Primitive
import Mathlib
/-!
# Numbers — the exact values they stand for

The value of a number is a rational or one of the two infinities, and a word
that is not a number has none. For a floating-point word the value is the
one its interchange format gives it: it is read off the fields of the word,
the same way for every width, and not with the operations that order words.
`Binary64.value?_eq` then finds it in the parts that those operations work
with.
-/

namespace Criteria

/-- A rational, or one of the infinities beyond all of them. -/
abbrev Extended := WithBot (WithTop ℚ)

/-! ## Interchange formats -/

/-- A binary interchange format, by how many bits its exponent has and how
many its fraction. One more, before both, is the sign. -/
structure Interchange where
  exponentWidth : Nat
  fractionWidth : Nat

namespace Interchange

/-- The formats of 32 bits and of 64. -/
def single : Interchange := ⟨8, 23⟩

def double : Interchange := ⟨11, 52⟩

variable (format : Interchange)

/-- The sign of a word. -/
def isNegative (bits : Nat) : Bool :=
  bits / 2 ^ (format.exponentWidth + format.fractionWidth) % 2 == 1

/-- The exponent, as it stands in the word. -/
def exponentField (bits : Nat) : Nat := bits / 2 ^ format.fractionWidth % 2 ^ format.exponentWidth

/-- The fraction, as it stands in the word. -/
def fractionField (bits : Nat) : Nat := bits % 2 ^ format.fractionWidth

/-- How far the exponent in the word is above the exponent it stands for. -/
def bias : Int := 2 ^ (format.exponentWidth - 1) - 1

/-- The value of a finite word but for its sign. The fraction follows a
leading one, unless the exponent in the word is zero. -/
def size (bits : Nat) : ℚ :=
  let fraction : ℚ := format.fractionField bits / 2 ^ format.fractionWidth
  if format.exponentField bits = 0 then fraction * 2 ^ (1 - format.bias)
  else (1 + fraction) * 2 ^ ((format.exponentField bits : Int) - format.bias)

/-- The value of a finite word. -/
def finite (bits : Nat) : ℚ :=
  if format.isNegative bits then -format.size bits else format.size bits

/-- The value of a word, unless it is not a number. Words with nothing but
ones in the exponent are the infinities, and with a fraction no numbers. -/
def value? (bits : Nat) : Option Extended :=
  if format.exponentField bits = 2 ^ format.exponentWidth - 1 then
    if format.fractionField bits = 0 then some (if format.isNegative bits then ⊥ else ⊤) else none
  else some (format.finite bits : ℚ)

end Interchange

/-! ## Values -/

/-- The value of a double, unless it is not a number. -/
def Binary64.value? (x : Binary64) : Option Extended := Interchange.double.value? x.bits.toNat

/-- The value of a number, unless it is none. -/
def Number.value? : Number → Option Extended
  | signed n => some (n.toInt : ℚ)
  | unsigned n => some (n.toNat : ℚ)
  | float x => x.value?

/-- A double that is not a number. -/
def Number.isNaN : Number → Bool
  | float x => x.isNaN
  | _ => false

/-- The value of a number of a fixed width, unless it is none. -/
def Primitive.value? : Primitive → Option Extended
  | int8 n => some (n.toInt : ℚ)
  | int16 n => some (n.toInt : ℚ)
  | int32 n => some (n.toInt : ℚ)
  | int64 n => some (n.toInt : ℚ)
  | uint8 n => some (n.toNat : ℚ)
  | uint16 n => some (n.toNat : ℚ)
  | uint32 n => some (n.toNat : ℚ)
  | uint64 n => some (n.toNat : ℚ)
  | float32 bits => Interchange.single.value? bits.toNat
  | float64 x => x.value?

/-! ## The parts of a double -/

namespace Binary64

variable (x : Binary64)

/-- The rational that a finite word stands for. -/
def toRat : ℚ := Interchange.double.finite x.bits.toNat

theorem isNegative_double : Interchange.double.isNegative x.bits.toNat = x.isNegative := by
  have hbits : x.bits.toNat < 2 ^ 64 := x.bits.toNat_lt
  rw [Bool.eq_iff_iff]
  simp only [Interchange.isNegative, Interchange.double, isNegative, Nat.pow_eq, beq_iff_eq,
    decide_eq_true_eq]
  omega

theorem exponentField_double : Interchange.double.exponentField x.bits.toNat = x.exponentBits := by
  simp only [Interchange.exponentField, Interchange.double, exponentBits, magnitude, Nat.pow_eq]
  omega

theorem fractionField_double : Interchange.double.fractionField x.bits.toNat = x.fractionBits := by
  simp only [Interchange.fractionField, Interchange.double, fractionBits, magnitude, Nat.pow_eq]
  omega

/-- A magnitude above that of the infinities is one of ones in the exponent
and a fraction. -/
theorem isNaN_iff : x.isNaN = true ↔ x.exponentBits = 2047 ∧ x.fractionBits ≠ 0 := by
  have hmagnitude : x.magnitude < 2 ^ 63 := Nat.mod_lt _ (by decide)
  rw [isNaN, decide_eq_true_iff]
  simp only [infinity, exponentBits, fractionBits, Nat.pow_eq]
  omega

theorem isInfinite_iff : x.isInfinite = true ↔ x.exponentBits = 2047 ∧ x.fractionBits = 0 := by
  simp only [isInfinite, infinity, exponentBits, fractionBits, Nat.pow_eq, beq_iff_eq]
  omega

/-- **The value of a double, by what kind of word it is.** -/
theorem value?_eq : x.value? =
    if x.isNaN then none
    else if x.isInfinite then some (if x.isNegative then (⊥ : Extended) else ⊤)
    else some (x.toRat : ℚ) := by
  have hones : 2 ^ Interchange.double.exponentWidth - 1 = 2047 := by decide
  rw [value?, Interchange.value?, exponentField_double, fractionField_double, isNegative_double,
    hones]
  by_cases he : x.exponentBits = 2047 <;> by_cases hf : x.fractionBits = 0 <;>
    simp [he, hf, isNaN_iff, isInfinite_iff, toRat]

/-- The fraction behind its leading one is the significand fifty-two places
further up. -/
theorem size_double :
    Interchange.double.size x.bits.toNat = x.significand * (2 : ℚ) ^ x.exponent := by
  have hwidth : Interchange.double.fractionWidth = 52 := rfl
  have hbias : Interchange.double.bias = 1023 := by decide
  rw [Interchange.size, exponentField_double, fractionField_double, hwidth, hbias]
  unfold significand exponent
  split
  · have hplaces : (1 - 1023 : Int) = -1074 + (52 : Nat) := by norm_num
    rw [hplaces, zpow_add₀ two_ne_zero, zpow_natCast]
    field_simp
  · have hplaces : (x.exponentBits : Int) - 1023 = (x.exponentBits : Int) - 1075 + (52 : Nat) := by
      push_cast
      ring
    rw [hplaces, zpow_add₀ two_ne_zero, zpow_natCast]
    push_cast [Nat.pow_eq]
    field_simp
    norm_num

/-- **A finite word stands for its significand times its power of two.** -/
theorem toRat_eq : x.toRat =
    if x.isNegative then -(x.significand * (2 : ℚ) ^ x.exponent)
    else x.significand * (2 : ℚ) ^ x.exponent := by
  rw [toRat, Interchange.finite, isNegative_double, size_double]

end Binary64

/-- Only what is no number has no value. -/
theorem Number.value?_eq_none_iff (a : Number) : a.value? = none ↔ a.isNaN = true := by
  cases a with
  | signed n | unsigned n => simp [value?, isNaN]
  | float x =>
    rw [value?, isNaN, Binary64.value?_eq]
    cases x.isNaN <;> cases x.isInfinite <;> simp

end Criteria
