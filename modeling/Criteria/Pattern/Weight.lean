import Criteria.Unicode.ByteRow
import Criteria.Unicode.CharClass
/-!
# Weights

A text is searched by a machine that reads bytes, and a pattern is refused
if its machine would take too much room. Its weight is that room, in bytes.
The largest part of it are classes of characters. Their machines read the
bytes of a character from the last to the first, so rows with a common
beginning end in common states.
-/

namespace Criteria

/-- The weight above which a pattern is refused: ten mebibytes. -/
def weightLimit : Nat := 10 * Nat.pow 2 20

/-- The weight of one state. -/
def stateWeight : Nat := 32

/-- The weight of one way on from a state that any byte may take. -/
def wayWeight : Nat := 4

/-- The weight of one way on that takes some bytes only. -/
def byteWayWeight : Nat := 8

/-- The weight of a state with two ways on. -/
def choiceWeight : Nat := stateWeight + 2 * wayWeight

namespace Unicode.CharClass

/-- The rows of a class. -/
def rows (s : CharClass) : List ByteRow :=
  s.boundaries.stretches.flatMap fun (low, high) => ByteRow.ofStretch low high

/-- The weight of a class. A single character has one state for each byte.
Any other class has a state to begin with and one to end with. Between them
ASCII characters alone need a way for each stretch; others need a way for
each row and a state for each beginning of rows. -/
def weight (s : CharClass) : Nat :=
  let choice (rows : List ByteRow) : Nat :=
    2 * stateWeight +
      if rows.all fun row => row.length = 1 then byteWayWeight * rows.length
      else wayWeight * rows.length + stateWeight * ByteRow.beginnings [] rows
  match s.rows with
  | [] => stateWeight
  | [row] => if row.all fun (first, last) => first = last then stateWeight * row.length
      else choice [row]
  | rows => choice rows

/-- **A class weighs what its set does**, however it is written. -/
theorem weight_congr {s t : CharClass} (h : ∀ c, s.holds c = t.holds c) : s.weight = t.weight := by
  rw [weight, weight, rows, rows, boundaries_congr h]

end Unicode.CharClass

end Criteria
