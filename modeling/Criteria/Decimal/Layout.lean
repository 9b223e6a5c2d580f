import Criteria.Decimal.Shortest
/-!
# Writing a decimal down

A `Layout` holds a format's decisions: from which decimal exponents on it
turns to exponent form, and whether a whole number keeps a zero after its
point. `Layout.write` lays out the digits of a decimal by it.
-/

namespace Criteria.Decimal

/-- A format's decisions on where the point goes. -/
structure Layout where
  /-- The decimal exponents written with a plain point; all of them where
  there is no bound. -/
  plain : Option (Int × Int)
  /-- Whether a whole number is written with `.0`. -/
  keepsPoint : Bool
deriving DecidableEq, Repr

namespace Layout

/-- Digits before the point at `point`, digits after it: a position left
of all digits fills in zeros after the point, one right of all digits fills
them in before it. -/
def placePoint (digits : List Char) (point : Int) (keepsPoint : Bool) : List Char :=
  if point ≤ 0 then
    '0' :: '.' :: (List.replicate (-point).toNat '0' ++ digits)
  else if digits.length ≤ point then
    digits ++ List.replicate (point.toNat - digits.length) '0'
      ++ (if keepsPoint then ['.', '0'] else [])
  else
    digits.take point.toNat ++ '.' :: digits.drop point.toNat

/-- One digit before the point, the rest after it, and the exponent. -/
def scientific (digits : List Char) (exponent : Int) : List Char :=
  let mantissa := match digits with
    | d :: e :: rest => d :: '.' :: e :: rest
    | short => short
  mantissa ++ 'e' :: (toString exponent).toList

/-- A positive decimal laid out by the format. -/
def write (l : Layout) (s : Scaled) : String :=
  let digits := (toString s.digits).toList
  let point := (digits.length : Int) + s.power
  let isPlain := match l.plain with
    | none => true
    | some (low, high) => low ≤ point - 1 && point - 1 ≤ high
  String.ofList (if isPlain then placePoint digits point l.keepsPoint
    else scientific digits (point - 1))

/-- A zero laid out by the format. -/
def writeZero (l : Layout) : String := if l.keepsPoint then "0.0" else "0"

end Layout

end Criteria.Decimal
