import Criteria.Unicode.Boundaries
/-!
# White space

The characters with the `White_Space` property. It has the line and
paragraph separators and the spaces of every width, and neither the
zero-width ones nor the separators of the information group `0x1C … 0x1F`.
-/

namespace Criteria.Unicode

/-- Where the `White_Space` property changes. -/
def whiteSpacePoints : List Nat :=
  [0x9, 0xE, 0x20, 0x21, 0x85, 0x86, 0xA0, 0xA1, 0x1680, 0x1681, 0x2000, 0x200B, 0x2028, 0x202A,
   0x202F, 0x2030, 0x205F, 0x2060, 0x3000, 0x3001]

/-- White space. -/
def isWhiteSpace (c : Char) : Bool := Boundaries.within whiteSpacePoints c.toNat

end Criteria.Unicode
