/-!
# Written patterns

The tree of a pattern as it is written. Flags stand in it where they are
set, since what a leaf stands for depends on the flags in force there:
`Written` keeps them, and `Pattern/Meaning` reads them.
-/

namespace Criteria

/-- An option of a pattern, set and unset within it. -/
inductive Flag
  | ignoreCase
  | multiLine
  | dotMatchesNewline
  | swapGreed
  | unicode
  | crlf
  | verbose
deriving DecidableEq, Repr

namespace Flag

/-- Every flag. -/
def all : List Flag :=
  [ignoreCase, multiLine, dotMatchesNewline, swapGreed, unicode, crlf, verbose]

/-- The letter that stands for a flag. -/
def letter : Flag → Char
  | ignoreCase => 'i'
  | multiLine => 'm'
  | dotMatchesNewline => 's'
  | swapGreed => 'U'
  | unicode => 'u'
  | crlf => 'R'
  | verbose => 'x'

/-- The flag of a letter. -/
def ofLetter? (c : Char) : Option Flag := all.find? (·.letter == c)

end Flag

/-- Flags switched on and off together. -/
abbrev FlagChange := List (Flag × Bool)

/-- What a change says of one flag. -/
def FlagChange.state? (change : FlagChange) (f : Flag) : Option Bool := change.lookup f

/-- The flags in force at a place. -/
abbrev Flags := List Flag

/-- The flags after a change. -/
def Flags.apply (flags : Flags) (change : FlagChange) : Flags :=
  Flag.all.filter fun f => (FlagChange.state? change f).getD (flags.contains f)

namespace Written

/-- A character, and whether it was written as the number of a byte. -/
structure Literal where
  char : Char
  asByte : Bool
deriving DecidableEq, Repr

/-- The classes that a backslash and a letter stand for. -/
inductive Shorthand
  | digit
  | space
  | word
deriving DecidableEq, Repr

/-- A class named by a Unicode property: by one name, or by a property and
a value, which may be denied. -/
inductive Property
  | named (name : String)
  | valued (name value : String) (denied : Bool)
deriving DecidableEq, Repr

/-- The named ASCII classes. -/
inductive AsciiClass
  | alnum
  | alpha
  | ascii
  | blank
  | cntrl
  | digit
  | graph
  | lower
  | print
  | punct
  | space
  | upper
  | word
  | xdigit
deriving DecidableEq, Repr

/-- The two-sided operations on sets. -/
inductive SetOperation
  | intersection
  | difference
  | symmetricDifference
deriving DecidableEq, Repr

/-- A set between square brackets. -/
inductive Set
  | nothing
  | range (low high : Literal)
  | shorthand (kind : Shorthand) (negated : Bool)
  | property (which : Property) (negated : Bool)
  | ascii (which : AsciiClass) (negated : Bool)
  | bracketed (negated : Bool) (body : Set)
  | union (left right : Set)
  | operation (which : SetOperation) (left right : Set)
deriving Repr

/-- The words of an anchor, without its flags. -/
inductive Mark
  /-- A caret. -/
  | caret
  /-- A dollar sign. -/
  | dollar
  | textStart
  | textEnd
  | boundary
  | interior
  | wordStart
  | wordEnd
  | wordStartHalf
  | wordEndHalf
deriving DecidableEq, Repr

/-- A pattern as it is written. -/
inductive Node
  | nothing
  | flags (change : FlagChange)
  | literal (l : Literal)
  | dot
  | mark (m : Mark)
  | shorthand (kind : Shorthand) (negated : Bool)
  | property (which : Property) (negated : Bool)
  | bracketed (negated : Bool) (body : Set)
  | group (change : FlagChange) (body : Node)
  | loop (least : Nat) (most : Option Nat) (body : Node)
  | seq (first second : Node)
  | either (left right : Node)
deriving Repr

end Written

end Criteria
