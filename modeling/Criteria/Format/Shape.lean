import Criteria.Pattern.Matching
/-!
# Shapes of whole texts

A format is a pattern that a text fits from its start to its end.
-/

namespace Criteria.Format

/-- The ASCII letters and digits, and some characters beside. -/
def alphanumericOr (others : List Char) : CharSet := fun c => c.isAlphanum || others.contains c

/-- One or more characters of a set. -/
def run (set : CharSet) : Pattern CharSet Anchor := .loop 1 none (.one set)

/-- Patterns one after the other, over a whole text. -/
def whole (parts : List (Pattern CharSet Anchor)) : Pattern CharSet Anchor :=
  .seq (.look .textStart) (parts.foldr .seq (.look .textEnd))

end Criteria.Format
