import Criteria.Unicode.Alphabetic
import Criteria.Unicode.Category
/-!
# Patterns

A pattern describes stretches of text. Its leaves are of two kinds: one
asks for a character, the other looks at a place between two characters
without taking any. What the leaves are is left open: a written pattern has
sets of characters and anchors, and a pattern laid over one text has the
positions at which each leaf holds.
-/

namespace Criteria

/-- A pattern over leaves `σ` for characters and `τ` for places. -/
inductive Pattern (σ τ : Type)
  /-- The empty stretch. -/
  | empty
  /-- One character. -/
  | one (leaf : σ)
  /-- The empty stretch at a place. -/
  | look (leaf : τ)
  /-- One stretch after another. -/
  | seq (first second : Pattern σ τ)
  /-- Either of two. -/
  | either (left right : Pattern σ τ)
  /-- Some number of stretches in a row, with or without an upper bound. -/
  | loop (least : Nat) (most : Option Nat) (body : Pattern σ τ)

namespace Pattern

/-- The pattern with each leaf replaced. -/
def map {σ τ σ' τ' : Type} (f : σ → σ') (g : τ → τ') : Pattern σ τ → Pattern σ' τ'
  | empty => empty
  | one leaf => one (f leaf)
  | look leaf => look (g leaf)
  | seq first second => seq (first.map f g) (second.map f g)
  | either left right => either (left.map f g) (right.map f g)
  | loop least most body => loop least most (body.map f g)

end Pattern

/-- A set of characters. -/
abbrev CharSet := Char → Bool

namespace CharSet

/-- The ASCII characters that words are made of. -/
def asciiWord : CharSet := fun c => c.isAlphanum || c == '_'

/-- The characters that words are made of: letters, marks, decimal digits,
connectors and the two joiners. -/
def word : CharSet := fun c =>
  Unicode.isAlphabetic c ||
    (match Unicode.category c with
      | .decimalNumber | .connectorPunctuation => true
      | g => g.isMark) ||
    c.toNat == 0x200c || c.toNat == 0x200d

end CharSet

/-- The six relations between a place and the words around it. -/
inductive WordEdge
  /-- A word begins or ends. -/
  | boundary
  /-- Neither. -/
  | interior
  | start
  | finish
  /-- No word before. -/
  | startHalf
  /-- No word after. -/
  | finishHalf
deriving DecidableEq, Repr

/-- The relation, from whether a word character stands before and after. -/
def WordEdge.holds : WordEdge → Bool → Bool → Bool
  | boundary, before, after => before != after
  | interior, before, after => before == after
  | start, before, after => !before && after
  | finish, before, after => before && !after
  | startHalf, before, _ => !before
  | finishHalf, _, after => !after

/-- What a place can be asked for. -/
inductive Anchor
  | textStart
  | textEnd
  /-- The start of the text or after a line feed. -/
  | lineStart
  /-- The end of the text or before a line feed. -/
  | lineEnd
  /-- As `lineStart`, where a carriage return ends a line too, and the two
  in a row are one end. -/
  | lineStartCrlf
  | lineEndCrlf
  | word (edge : WordEdge)
  | asciiWord (edge : WordEdge)
deriving DecidableEq, Repr

namespace Anchor

/-- Whether an anchor holds between two neighbouring characters, of which
the text may lack either. -/
def holds (a : Anchor) (before after : Option Char) : Bool :=
  match a with
  | textStart => before.isNone
  | textEnd => after.isNone
  | lineStart => before.isNone || before == some '\n'
  | lineEnd => after.isNone || after == some '\n'
  | lineStartCrlf =>
      before.isNone || before == some '\n' || (before == some '\r' && after != some '\n')
  | lineEndCrlf =>
      after.isNone || after == some '\r' || (after == some '\n' && before != some '\r')
  | word edge => edge.holds (before.any CharSet.word) (after.any CharSet.word)
  | asciiWord edge => edge.holds (before.any CharSet.asciiWord) (after.any CharSet.asciiWord)

end Anchor

end Criteria
