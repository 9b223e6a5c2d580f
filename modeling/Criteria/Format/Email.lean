import Criteria.Format.Shape
/-!
# Electronic mail addresses

A loose shape: a local part, an at sign, and a domain with a dot before a
last label of two letters or more.
-/

namespace Criteria.Format

namespace Email

/-- The characters of a local part. -/
def localChars : CharSet := alphanumericOr ['.', '_', '%', '+', '-']

/-- The characters of a domain before its last dot. -/
def domainChars : CharSet := alphanumericOr ['.', '-']

/-- The shape of an address. -/
def pattern : Pattern CharSet Anchor :=
  whole [run localChars, .one (· == '@'), run domainChars, .one (· == '.'),
    .loop 2 none (.one Char.isAlpha)]

end Email

/-- The text looks like an address. -/
def isEmail (s : String) : Bool := !s.isEmpty && Email.pattern.occursIn s.toList

end Criteria.Format
