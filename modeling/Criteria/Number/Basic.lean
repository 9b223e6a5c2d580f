import Criteria.Number.Binary64
/-!
# Numbers of three kinds

A `Number` is a signed or an unsigned 64-bit integer or a double. Mixed
comparisons are exact: `Number.compare?` never rounds an integer to meet a
double. Equality is another matter: `Number.equals` first asks for the
same kind.
-/

namespace Criteria

/-- A number, with the kind it was given in. -/
inductive Number
  | signed (n : Int64)
  | unsigned (n : UInt64)
  | float (x : Binary64)
deriving Repr

namespace Number

/-- How two numbers order; a number that is none orders with nothing. Of
two integers of different kinds, a negative one is below all of the other
kind, and the rest compare as unsigned. -/
def compare? : Number → Number → Option Ordering
  | signed a, signed b => some (compare a.toInt b.toInt)
  | unsigned a, unsigned b => some (compare a.toNat b.toNat)
  | float a, float b => a.compare? b
  | signed a, unsigned b =>
      some (if a.toInt < 0 then .lt else compare a.toInt.toNat b.toNat)
  | unsigned a, signed b =>
      some (if b.toInt < 0 then .gt else compare a.toNat b.toInt.toNat)
  | signed a, float b => b.compareInt? a.toInt
  | unsigned a, float b => b.compareInt? a.toNat
  | float a, signed b => (a.compareInt? b.toInt).map Ordering.swap
  | float a, unsigned b => (a.compareInt? b.toNat).map Ordering.swap

/-- Equality within one kind; numbers of different kinds differ. -/
def equals : Number → Number → Bool
  | signed a, signed b => a == b
  | unsigned a, unsigned b => a == b
  | float a, float b => a.equals b
  | _, _ => false

instance : BEq Number := ⟨equals⟩

/-- The order relations that the comparison gives: all four are false of
numbers that do not order. -/
def lt (a b : Number) : Bool := a.compare? b == some .lt

def le (a b : Number) : Bool := (a.compare? b).any (· != .gt)

def gt (a b : Number) : Bool := a.compare? b == some .gt

def ge (a b : Number) : Bool := (a.compare? b).any (· != .lt)

/-- Zero of one of the two integer kinds. -/
def isIntegerZero : Number → Bool
  | signed n => n == 0
  | unsigned n => n == 0
  | float _ => false

/-- The double nearest to the number. -/
def toBinary64 : Number → Binary64
  | signed n => .ofInt n.toInt
  | unsigned n => .ofInt n.toNat
  | float x => x

end Number

end Criteria
