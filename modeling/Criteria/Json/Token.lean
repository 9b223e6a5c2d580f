import Criteria.Json.Numeral
import Criteria.Text.Hexadecimal
/-!
# The tokens of a document

A document is a row of tokens with white space between them. Strings are
decoded here: an escaped character pair that stands for one character
becomes it, and half of such a pair is refused, as is a control character
that stands for itself.
-/

namespace Criteria.Json

/-- A token of a document. -/
inductive Token
  | openArray
  | closeArray
  | openObject
  | closeObject
  | comma
  | colon
  | null
  | bool (b : Bool)
  | number (n : Numeral)
  | string (s : String)
deriving Repr

namespace Token

/-- The value of four hexadecimal digits. -/
def unit? (a b c d : Char) : Option Nat := Text.hexNumber? [a, b, c, d]

/-- The character of a pair of units, if it is one. -/
def ofPair? (high low : Nat) : Option Char :=
  if 0xd800 ≤ high && high ≤ 0xdbff && 0xdc00 ≤ low && low ≤ 0xdfff then
    some (Char.ofNat (0x10000 + (high - 0xd800) * 1024 + (low - 0xdc00)))
  else none

/-- The character of a lone unit; half of a pair has none. -/
def ofUnit? (unit : Nat) : Option Char :=
  Text.charOf? unit

/-- The character that a backslash and a letter stand for. -/
def ofEscape? : Char → Option Char
  | '\x22' => some '\x22'
  | '\\' => some '\\'
  | '/' => some '/'
  | 'b' => some '\x08'
  | 'f' => some '\x0c'
  | 'n' => some '\n'
  | 'r' => some '\r'
  | 't' => some '\t'
  | _ => none

/-- Reads a string from after its opening quote; what was read comes in
reverse. -/
def readString (read : List Char) : List Char → Option (String × List Char)
  | [] => none
  | '\x22' :: rest => some (String.ofList read.reverse, rest)
  | '\\' :: 'u' :: a :: b :: c :: d :: '\\' :: 'u' :: e :: f :: g :: h :: rest =>
      match unit? a b c d with
      | none => none
      | some first =>
          match ofUnit? first with
          | some ch =>
              readString (ch :: read) ('\\' :: 'u' :: e :: f :: g :: h :: rest)
          | none =>
              match (unit? e f g h).bind (ofPair? first) with
              | some ch => readString (ch :: read) rest
              | none => none
  | '\\' :: 'u' :: a :: b :: c :: d :: rest =>
      match (unit? a b c d).bind ofUnit? with
      | some ch => readString (ch :: read) rest
      | none => none
  | '\\' :: c :: rest =>
      match ofEscape? c with
      | some ch => readString (ch :: read) rest
      | none => none
  | c :: rest => if c.toNat < 32 || c = '\\' then none else readString (c :: read) rest

/-- White space between tokens. -/
def isSpace (c : Char) : Bool := c == ' ' || c == '\n' || c == '\t' || c == '\r'

/-- Reads the token at the front of a text that does not start with white
space. -/
def readToken : List Char → Option (Token × List Char)
  | '[' :: rest => some (openArray, rest)
  | ']' :: rest => some (closeArray, rest)
  | '\x7b' :: rest => some (openObject, rest)
  | '\x7d' :: rest => some (closeObject, rest)
  | ',' :: rest => some (comma, rest)
  | ':' :: rest => some (colon, rest)
  | '\x22' :: rest => (readString [] rest).map fun (s, rest) => (string s, rest)
  | 'n' :: 'u' :: 'l' :: 'l' :: rest => some (null, rest)
  | 't' :: 'r' :: 'u' :: 'e' :: rest => some (bool true, rest)
  | 'f' :: 'a' :: 'l' :: 's' :: 'e' :: rest => some (bool false, rest)
  | rest => (Numeral.read rest).map fun (n, rest) => (number n, rest)

/-- Reads all tokens of a text; each takes a character at least. -/
def readAll : Nat → List Char → Option (List Token)
  | 0, _ => none
  | fuel + 1, text =>
      match text.dropWhile isSpace with
      | [] => some []
      | text => do
          let (t, rest) ← readToken text
          let ts ← readAll fuel rest
          return t :: ts

/-- The tokens of a document. -/
def ofText? (text : String) : Option (List Token) :=
  let cs := text.toList
  readAll (cs.length + 1) cs

end Token

end Criteria.Json
