/-!
# Places in a document

What a reader of a document knows of its place: the text from there on, the
line and the column. Lines end at a line feed or at one of the two
separators of Unicode; every other way to end a line is written as a line
feed before reading starts.
-/

namespace Criteria.Yaml

/-- The characters that a document may have. -/
def isPrintable (c : Char) : Bool :=
  c = '\t' || c = '\n' || c = '\r' || (0x20 ≤ c.toNat && c.toNat ≤ 0x7e) || c.toNat = 0x85 ||
    (0xa0 ≤ c.toNat && c.toNat != 0xfffe && c.toNat != 0xffff)

/-- The text with one kind of line end: a carriage return, with or without
a line feed, and the next-line control all become a line feed. -/
def unifyBreaks : List Char → List Char
  | '\r' :: '\n' :: rest => '\n' :: unifyBreaks rest
  | '\r' :: rest => '\n' :: unifyBreaks rest
  | c :: rest => (if c.toNat = 0x85 then '\n' else c) :: unifyBreaks rest
  | [] => []

/-- The end of a line. -/
def isBreak (c : Char) : Bool := c = '\n' || c.toNat = 0x2028 || c.toNat = 0x2029

/-- A space or a tab. -/
def isBlank (c : Char) : Bool := c = ' ' || c = '\t'

/-- A blank, the end of a line, or the end of the text. -/
def atSpace : List Char → Bool
  | [] => true
  | c :: _ => isBlank c || isBreak c

/-- The text starts with a mark of three characters that stands alone, as
those between documents do. -/
def atMarker (mark : Char) : List Char → Bool
  | a :: b :: c :: rest => a == mark && b == mark && c == mark && atSpace rest
  | _ => false

/-- The text starts with either mark between documents. -/
def atEitherMarker (text : List Char) : Bool := atMarker '-' text || atMarker '.' text

/-- A place in a document. -/
structure Cursor where
  rest : List Char
  line : Nat
  column : Nat

namespace Cursor

/-- The start of a text. -/
def start (text : List Char) : Cursor := ⟨text, 0, 0⟩

/-- The place after the next character. -/
def next (c : Cursor) : Cursor :=
  match c.rest with
  | [] => c
  | ch :: rest => if isBreak ch then ⟨rest, c.line + 1, 0⟩ else ⟨rest, c.line, c.column + 1⟩

/-- The place some characters on, none of which ends a line. -/
def drop (c : Cursor) (n : Nat) : Cursor := ⟨c.rest.drop n, c.line, c.column + n⟩

/-- The characters from here on that satisfy `p`, and the place after
them. None of them ends a line. -/
def span (c : Cursor) (p : Char → Bool) : List Char × Cursor :=
  let found := c.rest.takeWhile p
  (found, c.drop found.length)

/-- The place after the blanks here. -/
def skipBlanks (c : Cursor) : Cursor := (c.span isBlank).2

/-- The place after a comment, if one is here. -/
def skipComment (c : Cursor) : Cursor :=
  if c.rest.head? = some '#' then (c.span (!isBreak ·)).2 else c

/-- The place after the line, where nothing but blanks and a comment are
left on it. -/
def endLine? (c : Cursor) : Option Cursor :=
  let c := c.skipBlanks.skipComment
  match c.rest with
  | [] => some c
  | ch :: _ => if isBreak ch then some c.next else none

end Cursor

end Criteria.Yaml
