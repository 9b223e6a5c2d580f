import Criteria.Unicode.Category
import Criteria.Unicode.Grapheme
/-!
# Quoted text

A text as an inspected value shows it: between double quotes, with a
backslash before a quote or a backslash, short escapes for the commonest
controls, and the number of every other character that cannot be seen by
itself.
-/

namespace Criteria.Text

open Unicode

/-- One character inside the quotes. -/
def escape (c : Char) : List Char :=
  if c.toNat = 0 then ['\\', '0']
  else if c = '\t' then ['\\', 't']
  else if c = '\r' then ['\\', 'r']
  else if c = '\n' then ['\\', 'n']
  else if c = '\x22' || c = '\\' then ['\\', c]
  else if !extendsGrapheme c && isPrintable c then [c]
  else ['\\', 'u', '\x7b'] ++ Nat.toDigits 16 c.toNat ++ ['\x7d']

/-- The text between quotes. -/
def quoted (s : String) : String :=
  String.ofList ('\x22' :: (s.toList.flatMap escape ++ ['\x22']))

end Criteria.Text
