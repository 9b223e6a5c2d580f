import Criteria.Number.Binary64
/-!
# Numbers in a document

A numeral of a document has a whole part without needless zeros, and may
have digits after a point and an exponent. A document holds numbers as
doubles, so a numeral whose number is too large for one is refused.
`Numeral.isFinite` decides this the way the number is computed: the digits
that fit 64 bits make a double, which one multiplication by a power of ten
brings to size.
-/

namespace Criteria.Json

/-- The parts of a numeral, digit by digit. -/
structure Numeral where
  negative : Bool
  whole : List Nat
  fraction : List Nat
  /-- The exponent's digits, and whether it is negative. -/
  exponent : Option (Bool × List Nat)
  /-- Written without a point and without an exponent. -/
  isInteger : Bool
deriving DecidableEq, Repr

namespace Numeral

/-- The largest coefficient. -/
def coefficientLimit : Nat := Nat.pow 2 64

/-- Appends digits to a coefficient while it fits; also the digits that no
longer do. -/
def append : Nat → List Nat → Nat × List Nat
  | coefficient, [] => (coefficient, [])
  | coefficient, d :: rest =>
      if coefficient * 10 + d < coefficientLimit then append (coefficient * 10 + d) rest
      else (coefficient, d :: rest)

/-- The nearest number with fifty-three significant bits. -/
def toSignificant (n : Nat) : Nat :=
  if n.log2 ≤ 52 then n else Binary64.shiftToNearestEven n (n.log2 - 52) * Nat.pow 2 (n.log2 - 52)

/-- The numbers from here on round to infinity. -/
def overflowBound : Nat := Nat.pow 2 1024 - Nat.pow 2 970

/-- Whether a coefficient scaled by a power of ten is finite. Scaling down
always is. -/
def scalesToFinite (coefficient : Nat) (exponent : Int) : Bool :=
  if coefficient = 0 || exponent < 0 then true
  else if 308 < exponent then false
  else toSignificant coefficient * toSignificant (Nat.pow 10 exponent.toNat) < overflowBound

/-- The value of an exponent's digits, if it fits 32 bits with a sign. -/
def exponentOf? (digits : List Nat) : Option Nat :=
  let n := digits.foldl (fun n d => n * 10 + d) 0
  if n < Nat.pow 2 31 then some n else none

/-- The numeral's number fits a double. -/
def isFinite (n : Numeral) : Bool :=
  let (head, wholeRest) := append 0 n.whole
  if n.isInteger && wholeRest.isEmpty then true
  else
    let (coefficient, fractionRest) := append head n.fraction
    let shift : Int := (wholeRest.length : Int) - ((n.fraction.length - fractionRest.length : Nat) : Int)
    match n.exponent with
    | none => scalesToFinite coefficient shift
    | some (negative, digits) =>
        match exponentOf? digits with
        | some e => scalesToFinite coefficient (if negative then shift - e else shift + e)
        | none => coefficient = 0 || negative

/-- The digits at the front of a text, with what follows them. -/
def digits (text : List Char) : List Nat × List Char :=
  ((text.takeWhile Char.isDigit).map (·.toNat - 48), text.dropWhile Char.isDigit)

/-- Reads a point and the digits after it, if there is one. -/
def readFraction (text : List Char) : Option (List Nat × Bool × List Char) :=
  match text with
  | '.' :: rest =>
      let (ds, rest) := digits rest
      if ds.isEmpty then none else some (ds, true, rest)
  | rest => some ([], false, rest)

/-- Reads an exponent, if there is one. -/
def readExponent (text : List Char) : Option (Option (Bool × List Nat) × List Char) :=
  match text with
  | c :: rest =>
      if c = 'e' || c = 'E' then
        let (negative, rest) := match rest with
          | '-' :: rest => (true, rest)
          | '+' :: rest => (false, rest)
          | rest => (false, rest)
        let (ds, rest) := digits rest
        if ds.isEmpty then none else some (some (negative, ds), rest)
      else some (none, c :: rest)
  | [] => some (none, [])

/-- Reads a numeral at the front of a text. -/
def read (text : List Char) : Option (Numeral × List Char) := do
  let (negative, text) := match text with
    | '-' :: rest => (true, rest)
    | rest => (false, rest)
  let (whole, text) := digits text
  match whole with
  | [] => none
  | 0 :: _ :: _ => none
  | whole => do
      let (fraction, hasPoint, text) ← readFraction text
      let (exponent, text) ← readExponent text
      let n : Numeral := ⟨negative, whole, fraction, exponent, !hasPoint && exponent.isNone⟩
      if n.isFinite then return (n, text) else none

end Numeral

end Criteria.Json
