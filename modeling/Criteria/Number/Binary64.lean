/-!
# Double-precision numbers, by their bits

A `Binary64` is the 64-bit word of a double-precision number and nothing
else; every operation reads the word with exact integer arithmetic. A
finite word stands for `± significand · 2 ^ exponent`. `compare?` orders
two words through `orderKey`, `compareInt?` orders an integer against a
word without rounding the integer, `ofInt` and `ofBinary32` make words.
-/

namespace Criteria

/-- A double-precision number, as its 64 bits: sign, eleven bits of
exponent, fifty-two of fraction. -/
structure Binary64 where
  bits : UInt64
deriving Repr

namespace Binary64

/-- The sign bit. -/
def isNegative (x : Binary64) : Bool := Nat.pow 2 63 ≤ x.bits.toNat

/-- The word without its sign bit. -/
def magnitude (x : Binary64) : Nat := x.bits.toNat % Nat.pow 2 63

/-- The eleven exponent bits. -/
def exponentBits (x : Binary64) : Nat := x.magnitude / Nat.pow 2 52

/-- The fifty-two fraction bits. -/
def fractionBits (x : Binary64) : Nat := x.magnitude % Nat.pow 2 52

/-- The magnitude of the two infinities; a larger one is no number. -/
def infinity : Nat := 2047 * Nat.pow 2 52

/-- Not a number. -/
def isNaN (x : Binary64) : Bool := infinity < x.magnitude

/-- One of the two infinities. -/
def isInfinite (x : Binary64) : Bool := x.magnitude == infinity

/-- Either zero. -/
def isZero (x : Binary64) : Bool := x.magnitude == 0

/-- The integer that a finite word scales by a power of two. The hidden
leading bit is there unless the exponent bits are all zero. -/
def significand (x : Binary64) : Nat :=
  if x.exponentBits = 0 then x.fractionBits else Nat.pow 2 52 + x.fractionBits

/-- The power of two that scales the significand. -/
def exponent (x : Binary64) : Int :=
  if x.exponentBits = 0 then -1074 else (x.exponentBits : Int) - 1075

/-! ## Order -/

/-- The magnitude with its sign. Words other than the not-a-numbers order
as their keys do, and the two zeros share the key `0`. -/
def orderKey (x : Binary64) : Int :=
  if x.isNegative then -(x.magnitude : Int) else x.magnitude

/-- How two words order; a word that is not a number orders with none. -/
def compare? (x y : Binary64) : Option Ordering :=
  if x.isNaN || y.isNaN then none else some (compare x.orderKey y.orderKey)

/-- Equality of numbers: the two zeros are equal, and a word that is not a
number differs from all words, itself included. -/
def equals (x y : Binary64) : Bool := x.compare? y == some .eq

/-- The whole part of a finite word, toward zero. -/
def whole (x : Binary64) : Int :=
  let w : Nat := match x.exponent with
    | .ofNat e => x.significand * Nat.pow 2 e
    | .negSucc e => x.significand / Nat.pow 2 (e + 1)
  if x.isNegative then -(w : Int) else w

/-- A finite word that is no integer. -/
def hasFraction (x : Binary64) : Bool :=
  match x.exponent with
  | .ofNat _ => false
  | .negSucc e => x.significand % Nat.pow 2 (e + 1) != 0

/-- An integer of 128 bits is below this and no lower than its negative. -/
def wholeLimit : Nat := Nat.pow 2 127

/-- How an integer of at most 128 bits orders against a word. A whole part
that needs more bits lies beyond the integer. Otherwise the whole parts
decide; where they agree, what is left of the word after the point does. -/
def compareInt? (n : Int) (x : Binary64) : Option Ordering :=
  if x.isNaN then none
  else if x.isInfinite then some (if x.isNegative then .gt else .lt)
  else if wholeLimit ≤ x.whole then some .lt
  else if x.whole < -wholeLimit then some .gt
  else match compare n x.whole with
    | .eq => some (if x.hasFraction then (if x.isNegative then .gt else .lt) else .eq)
    | other => some other

/-! ## Making words -/

/-- The word with a given sign and magnitude bits. -/
def ofMagnitude (negative : Bool) (magnitude : Nat) : Binary64 :=
  ⟨UInt64.ofNat (if negative then Nat.pow 2 63 + magnitude else magnitude)⟩

/-- `n / 2 ^ k`, to the nearest integer; a tie goes to the even one. -/
def shiftToNearestEven (n k : Nat) : Nat :=
  let q := n / Nat.pow 2 k
  let r := n % Nat.pow 2 k
  if 2 * r < Nat.pow 2 k then q
  else if Nat.pow 2 k < 2 * r then q + 1
  else q + q % 2

/-- The magnitude bits of the double nearest to a natural number. Rounding
up past the last significand carries into the exponent, which is what the
next power of two needs. -/
def magnitudeOfNat (n : Nat) : Nat :=
  if n = 0 then 0
  else
    let top := n.log2
    let significand := if top ≤ 52 then n * Nat.pow 2 (52 - top) else shiftToNearestEven n (top - 52)
    (top + 1022) * Nat.pow 2 52 + significand

/-- The double nearest to an integer of at most 64 bits, ties to even. -/
def ofInt (n : Int) : Binary64 := ofMagnitude (n < 0) (magnitudeOfNat n.natAbs)

/-- A single-precision word as a double of the same value. A word that is
not a number stays one. -/
def ofBinary32 (bits : UInt32) : Binary64 :=
  let negative : Bool := Nat.pow 2 31 ≤ bits.toNat
  let exponentBits := bits.toNat / Nat.pow 2 23 % Nat.pow 2 8
  let fraction := bits.toNat % Nat.pow 2 23
  if exponentBits = 255 then
    ofMagnitude negative (infinity + fraction * Nat.pow 2 29)
  else if exponentBits = 0 then
    if fraction = 0 then ofMagnitude negative 0
    else
      let top := fraction.log2
      ofMagnitude negative ((top + 1023 - 149 - 1) * Nat.pow 2 52 + fraction * Nat.pow 2 (52 - top))
  else
    ofMagnitude negative ((exponentBits + (1023 - 127)) * Nat.pow 2 52 + fraction * Nat.pow 2 29)

end Binary64

end Criteria
