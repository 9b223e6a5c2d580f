import Criteria.Format.Shape
/-!
# Base64 with padding

The standard alphabet, up to two equal signs at the end, and a length in
fours.
-/

namespace Criteria.Format

namespace Base64

/-- The sixty-four characters. -/
def alphabet : CharSet := alphanumericOr ['+', '/']

/-- The shape of a text, apart from its length. -/
def pattern : Pattern CharSet Anchor :=
  whole [.loop 0 none (.one alphabet), .loop 0 (some 2) (.one (· == '='))]

end Base64

/-- The text looks like padded Base64. -/
def isBase64 (s : String) : Bool :=
  !s.isEmpty && s.utf8ByteSize % 4 == 0 && Base64.pattern.occursIn s.toList

end Criteria.Format
