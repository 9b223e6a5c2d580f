import Criteria.Text.Case
/-!
# Finding a text in a text
-/

namespace Criteria.Text

/-- The needle occurs somewhere in the hay, as neighbouring characters. -/
def occursIn (needle : List Char) : List Char → Bool
  | [] => needle.isEmpty
  | c :: rest => needle.isPrefixOf (c :: rest) || occursIn needle rest

/-- The needle occurs in the hay, whatever the case of either if case is to
be looked past. -/
def occursUnder (ignoreCase : Bool) (needle hay : List Char) : Bool :=
  if ignoreCase then occursIn (lower needle) (lower hay) else occursIn needle hay

end Criteria.Text
