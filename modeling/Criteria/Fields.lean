import Criteria.Value
/-!
# Fields by name

A type whose fields can be asked for by name lists the names and answers
each with a value. A name outside the list may still be asked for; a
checked clause does not do so.
-/

namespace Criteria

/-- Items whose fields have names. -/
class Fields (α : Type) where
  /-- The names of the fields. -/
  names : List String
  /-- What the field of a name holds. -/
  value : α → String → Value

end Criteria
