import Criteria.Unicode.Casing
import Criteria.Unicode.Lowercase
/-!
# Text in lower case

Each character maps to its lower case, and one of them looks around: a
capital sigma becomes the final form where it ends a word.
-/

namespace Criteria.Text

open Unicode

/-- Walking away from a place, the first character that case does not look
past is a cased one. -/
def meetsCased (away : List Char) : Bool :=
  match away.dropWhile isCaseIgnorable with
  | [] => false
  | c :: _ => isCased c

/-- A capital sigma with these characters before it, nearest first, and
these after it ends a word. -/
def endsWord (before after : List Char) : Bool := meetsCased before && !meetsCased after

/-- The lower case of a text that stands after other characters, nearest
first. -/
def lowerAfter (before : List Char) : List Char → List Char
  | [] => []
  | c :: after =>
      (if c = 'Σ' then [if endsWord before after then 'ς' else 'σ'] else lowercase c)
        ++ lowerAfter (c :: before) after

/-- The text in lower case. -/
def lower (s : List Char) : List Char := lowerAfter [] s

end Criteria.Text
