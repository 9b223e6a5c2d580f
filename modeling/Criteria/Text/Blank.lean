import Criteria.Unicode.WhiteSpace
/-!
# Blank text, trimming and words

What white space does to a text: a blank one has nothing else, a trimmed
one has none at its ends, and the words of a text are the runs between.
-/

namespace Criteria.Text

open Unicode

/-- Nothing but white space. -/
def isBlank (s : List Char) : Bool := s.all isWhiteSpace

/-- The text without white space at its ends. -/
def trim (s : List Char) : List Char :=
  ((s.dropWhile isWhiteSpace).reverse.dropWhile isWhiteSpace).reverse

/-- The pieces between single white space characters, empty ones
included. -/
def pieces : List Char → List (List Char)
  | [] => [[]]
  | c :: rest =>
      if isWhiteSpace c then [] :: pieces rest
      else match pieces rest with
        | [] => [[c]]
        | piece :: more => (c :: piece) :: more

/-- The words of a text: its pieces that are not empty. -/
def words (s : List Char) : List (List Char) := (pieces s).filter (!·.isEmpty)

end Criteria.Text
