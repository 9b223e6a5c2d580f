import Criteria.Yaml.Cursor
import Criteria.Yaml.Scalar
/-!
# Block scalars

A block scalar starts with a header and takes the indented lines after it.
The header may fix the indentation and what becomes of the line ends at the
block's end; without the first, the first line that is not empty shows it,
unless an empty line before it is longer.
-/

namespace Criteria.Yaml

/-- What becomes of the line ends at the end of a block. -/
inductive Chomping
  /-- All go. -/
  | strip
  /-- One stays. -/
  | clip
  /-- All stay. -/
  | keep
deriving DecidableEq, Repr

/-- A line: its characters and its end, if it has one. -/
structure Line where
  text : List Char
  ending : List Char

namespace Line

/-- The lines of a text. -/
def ofText : List Char → List Line
  | [] => []
  | c :: rest =>
      if isBreak c then ⟨[], [c]⟩ :: ofText rest
      else match ofText rest with
        | [] => [⟨[c], []⟩]
        | l :: more => ⟨c :: l.text, l.ending⟩ :: more

/-- The text of lines. -/
def join (lines : List Line) : List Char := lines.flatMap fun l => l.text ++ l.ending

/-- How many spaces start the line. -/
def spaces (l : Line) : Nat := (l.text.takeWhile (· == ' ')).length

end Line

/-- The deepest indentation among the lines that start a block, up to the
first with more than spaces; none if a tab is among them. -/
def deepest? : List Line → Option Nat
  | [] => some 0
  | l :: rest =>
      match l.text.drop l.spaces with
      | [] => (deepest? rest).map (max l.spaces)
      | c :: _ => if c = '\t' then none else some l.spaces

/-- A block being read: its text in reverse, the end of the last line, the
ends of the empty lines after it, and whether the last line starts with a
blank. -/
structure BlockReading where
  read : List Char
  ending : List Char
  empties : List Char
  startsBlank : Bool

namespace BlockReading

/-- Nothing read yet. -/
def start : BlockReading := ⟨[], [], [], false⟩

/-- Takes an empty line. -/
def takeEmpty (b : BlockReading) (ending : List Char) : BlockReading :=
  { b with empties := b.empties ++ ending }

/-- Takes a line with its indentation removed. In a folded block the line
feed between two lines that start with no blank becomes a space, or the
empty lines between them. -/
def take (b : BlockReading) (folds : Bool) (line ending : List Char) : BlockReading :=
  let blank := line.head?.any isBlank
  let between :=
    if folds && b.ending == ['\n'] && !b.startsBlank && !blank then
      if b.empties.isEmpty then [' '] else b.empties
    else b.ending ++ b.empties
  ⟨line.reverse ++ between.reverse ++ b.read, ending, [], blank⟩

/-- The text of a block at its end. -/
def finish (b : BlockReading) (chomping : Chomping) : String :=
  let tail := match chomping with
    | .strip => []
    | .clip => b.ending
    | .keep => b.ending ++ b.empties
  String.ofList (b.read.reverse ++ tail)

end BlockReading

/-- Reads the lines of a block: those indented far enough, and the empty
ones between. The first line that is neither starts what is left. -/
def readBlockLines (folds : Bool) (indent : Nat) (b : BlockReading) :
    List Line → Option (BlockReading × List Line)
  | [] => some (b, [])
  | l :: rest =>
      let depth := min l.spaces indent
      match l.text.drop depth with
      | [] =>
          if l.ending.isEmpty then some (b, [])
          else readBlockLines folds indent (b.takeEmpty l.ending) rest
      | c :: line =>
          if depth < indent then if c = '\t' then none else some (b, l :: rest)
          else readBlockLines folds indent (b.take folds (c :: line) l.ending) rest

/-- The sign of a chomping. -/
def chompingOf? : Char → Option Chomping
  | '+' => some .keep
  | '-' => some .strip
  | _ => none

/-- Reads one digit other than zero, if a digit is here. -/
def readIncrement? (c : Cursor) : Option (Option Nat × Cursor) :=
  match c.rest.head? with
  | some d =>
      if d = '0' then none
      else if d.isDigit then some (some (d.toNat - 48), c.next)
      else some (none, c)
  | none => some (none, c)

/-- Reads a chomping sign, if one is here. -/
def readChomping (c : Cursor) : Option Chomping × Cursor :=
  match c.rest.head?.bind chompingOf? with
  | some k => (some k, c.next)
  | none => (none, c)

/-- Reads a header: a chomping and an indentation, in either order, each
with its default. -/
def readHeader? (c : Cursor) : Option (Chomping × Option Nat × Cursor) := do
  let (before, c) := readChomping c
  let (increment, c) ← readIncrement? c
  let (after, c) := if before.isNone && increment.isSome then readChomping c else (none, c)
  return ((before <|> after).getD .clip, increment, ← c.endLine?)

/-- Reads a block scalar from after its indicator, inside a mapping at a
column or inside none. -/
def readBlock (folds : Bool) (outer : Option Nat) (c : Cursor) : Option (String × Cursor) := do
  let (chomping, increment, c) ← readHeader? c
  let lines := Line.ofText c.rest
  let indent ← match increment with
    | some n => some (outer.getD 0 + n)
    | none => (deepest? lines).map fun n => max n (max (outer.elim 0 (· + 1)) 1)
  let (b, rest) ← readBlockLines folds indent .start lines
  let taken := lines.length - rest.length
  return (b.finish chomping, ⟨Line.join rest, c.line + taken, 0⟩)

end Criteria.Yaml
