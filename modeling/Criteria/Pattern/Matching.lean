import Criteria.Pattern.Basic
/-!
# Finding a pattern in a text

A text of `n` characters has the positions `0 … n`. A set of positions is a
natural number whose bit `i` says whether position `i` is in it. Laid over a
text, each leaf of a pattern becomes such a set, and `Pattern.ends` carries
a set of starting positions to the positions where the pattern can end: one
shift for a character, one intersection for a place. A repetition of any
length adds positions until none is new, which takes no more rounds than
there are positions.
-/

namespace Criteria

/-- The positions before the characters that satisfy `p`. -/
def positionsOf {α : Type} (p : α → Bool) : List α → Nat
  | [] => 0
  | a :: rest => 2 * positionsOf p rest + (p a).toNat

/-- The neighbours of every place of a text, from its start on. -/
def places (before : Option Char) : List Char → List (Option Char × Option Char)
  | [] => [(before, none)]
  | c :: rest => (before, some c) :: places (some c) rest

/-- `f` applied a number of times, or until it changes nothing. -/
def exactly (f : Nat → Nat) : Nat → Nat → Nat
  | 0, s => s
  | k + 1, s =>
      let t := f s
      if t = s then s else exactly f k t

/-- What `f` reaches in at most a number of steps, the start included. -/
def upTo (f : Nat → Nat) : Nat → Nat → Nat
  | 0, s => s
  | k + 1, s =>
      let t := s ||| f s
      if t = s then s else upTo f k t

namespace Pattern

/-- The positions where a pattern can end that starts in `starts`. Its
leaves are sets of positions of a text with fewer than `rounds` of them. -/
def ends (rounds : Nat) : Pattern Nat Nat → Nat → Nat
  | empty, starts => starts
  | one leaf, starts => (starts &&& leaf) <<< 1
  | look leaf, starts => starts &&& leaf
  | seq first second, starts => second.ends rounds (first.ends rounds starts)
  | either left right, starts => left.ends rounds starts ||| right.ends rounds starts
  | loop least most body, starts =>
      upTo (body.ends rounds)
        (match most with
          | none => rounds
          | some n => n - least)
        (exactly (body.ends rounds) least starts)

/-- The pattern laid over a text. -/
def onText (p : Pattern CharSet Anchor) (text : List Char) : Pattern Nat Nat :=
  p.map (fun set => positionsOf set text)
    (fun a => positionsOf (fun (b, c) => a.holds b c) (places none text))

/-- The pattern describes some stretch of the text. -/
def occursIn (p : Pattern CharSet Anchor) (text : List Char) : Bool :=
  (p.onText text).ends (text.length + 1) ((1 <<< (text.length + 1)) - 1) != 0

end Pattern

end Criteria
