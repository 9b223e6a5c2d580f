/-!
# Scalars

The leaves of a document: a text, how it was written, and its tag.
-/

namespace Criteria.Yaml

/-- How a scalar is written. -/
inductive Style
  | plain
  | quoted
  /-- A block whose lines stay lines. -/
  | literal
  /-- A block whose lines flow together. -/
  | folded
deriving DecidableEq, Repr

/-- A scalar of a document, with its tag resolved. -/
structure Scalar where
  text : String
  style : Style
  tag : Option String
deriving DecidableEq, Repr

namespace Scalar

/-- The scalar that stands where nothing is written. -/
def empty (tag : Option String) : Scalar := ⟨"", .plain, tag⟩

end Scalar

end Criteria.Yaml
