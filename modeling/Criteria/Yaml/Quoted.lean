import Criteria.Text.Hexadecimal
import Criteria.Yaml.Cursor
/-!
# Quoted scalars

Between single quotes every character stands for itself, and two quotes for
one. Between double quotes a backslash escapes. In both a line end and the
blanks around it fold into one space, or into the line ends that follow the
first. A mark between documents may not stand at the start of a line.
-/

namespace Criteria.Yaml

/-- What lies between two characters of a quoted scalar and counts only
once the second is reached. -/
inductive Gap
  /-- Blanks on a line, in reverse. -/
  | blanks (seen : List Char)
  /-- The first line end, which may be escaped away, and the others in
  reverse. -/
  | breaks (first : Option Char) (others : List Char)

namespace Gap

/-- No gap. -/
def nothing : Gap := blanks []

/-- The gap with one more blank; a blank at the start of a line is lost. -/
def addBlank (c : Char) : Gap → Gap
  | blanks seen => blanks (c :: seen)
  | g => g

/-- The gap with one more line end. -/
def addBreak (c : Char) : Gap → Gap
  | blanks _ => breaks (some c) []
  | breaks first others => breaks first (c :: others)

/-- What the gap stands for. A line feed folds into a space, or into the
line ends after it; a separator stays. -/
def text : Gap → List Char
  | blanks seen => seen.reverse
  | breaks (some '\n') [] => [' ']
  | breaks (some '\n') others => others.reverse
  | breaks (some c) others => c :: others.reverse
  | breaks none others => others.reverse

end Gap

/-- The character that a backslash and a character stand for. -/
def ofEscape? : Char → Option Char
  | '0' => some '\x00'
  | 'a' => some '\x07'
  | 'b' => some '\x08'
  | 't' => some '\t'
  | '\t' => some '\t'
  | 'n' => some '\n'
  | 'v' => some '\x0b'
  | 'f' => some '\x0c'
  | 'r' => some '\r'
  | 'e' => some '\x1b'
  | ' ' => some ' '
  | '\x22' => some '\x22'
  | '/' => some '/'
  | '\\' => some '\\'
  | 'N' => some '\u0085'
  | '_' => some '\u00a0'
  | 'L' => some '\u2028'
  | 'P' => some '\u2029'
  | _ => none

/-- The number of hexadecimal digits after a backslash and a letter. -/
def escapeDigits? : Char → Option Nat
  | 'x' => some 2
  | 'u' => some 4
  | 'U' => some 8
  | _ => none

/-- Reads what a backslash begins, from after it. -/
def readEscape? (c : Cursor) : Option (Char × Cursor) :=
  match c.rest with
  | [] => none
  | kind :: rest =>
      match escapeDigits? kind with
      | some width => do
          let digits := rest.take width
          if digits.length < width then none
          let ch ← (Text.hexNumber? digits).bind Text.charOf?
          return (ch, c.drop (width + 1))
      | none => (ofEscape? kind).map (·, c.next)

/-- Reads a quoted scalar from after its opening quote: the characters so
far, in reverse, and the gap after them. Each round takes a character. -/
def readQuotedFrom (double : Bool) : Nat → Cursor → List Char → Gap → Option (String × Cursor)
  | 0, _, _, _ => none
  | fuel + 1, c, read, gap =>
      match c.rest with
      | [] => none
      | ch :: rest =>
          if isBlank ch then readQuotedFrom double fuel c.next read (gap.addBlank ch)
          else if isBreak ch then readQuotedFrom double fuel c.next read (gap.addBreak ch)
          else if c.column == 0 && atEitherMarker c.rest then none
          else
            let read := gap.text.reverse ++ read
            if double then
              if ch = '\x22' then some (String.ofList read.reverse, c.next)
              else if ch = '\\' then
                match rest with
                | e :: _ =>
                    if isBreak e then readQuotedFrom double fuel c.next.next read (.breaks none [])
                    else match readEscape? c.next with
                      | some (ch, c) => readQuotedFrom double fuel c (ch :: read) .nothing
                      | none => none
                | [] => none
              else readQuotedFrom double fuel c.next (ch :: read) .nothing
            else if ch = '\x27' then
              if rest.head? = some '\x27' then
                readQuotedFrom double fuel c.next.next (ch :: read) .nothing
              else some (String.ofList read.reverse, c.next)
            else readQuotedFrom double fuel c.next (ch :: read) .nothing

/-- Reads a quoted scalar from after its opening quote. -/
def readQuoted (double : Bool) (c : Cursor) : Option (String × Cursor) :=
  readQuotedFrom double c.rest.length c [] .nothing

end Criteria.Yaml
