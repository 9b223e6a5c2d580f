import Criteria.Pattern.Matching
import Criteria.Pattern.Reader
import Criteria.Pattern.Weight
import Criteria.Unicode.Property
import Criteria.Unicode.Script
import Criteria.Unicode.WhiteSpace
/-!
# What a written pattern describes

`Node.meaning?` turns the tree of a written pattern into a pattern over
sets of characters and anchors. Flags are in force from where they are set
to the end of their group, bars included. Outside Unicode mode a pattern
may only describe characters that are one byte long, so negated sets, the
dot and properties are refused there. Case is ignored set by set: a set
that ignores case has all characters alike but for case to one it names.

Each meaning carries a weight, the room that a machine for it would take,
and a pattern of more than ten mebibytes is refused.
-/

namespace Criteria

open Unicode (CharClass)

namespace Unicode.CharClass

/-- A class under the flags that ignore case. -/
def underCase (ignoreCase unicode : Bool) (s : CharClass) : CharClass :=
  if ignoreCase then (if unicode then s.foldCase else s.foldAsciiCase) else s

/-- A class or its complement. -/
def orComplement (negated : Bool) (s : CharClass) : CharClass :=
  if negated then s.complement else s

/-- The characters that words are made of. -/
def word : CharClass where
  holds := CharSet.word
  points := alphabeticPoints ++ Category.points ++ [0x200c, 0x200d, 0x200e]
  holds_congr c d h := by
    have halphabetic : isAlphabetic c = isAlphabetic d := Boundaries.within_congr h.left.left
    have hcategory : category c = category d := category_congr h.left.right
    have hfirst : c.toNat = 0x200c ↔ d.toNat = 0x200c := h.right.eq_iff (by simp) (by simp)
    have hsecond : c.toNat = 0x200d ↔ d.toNat = 0x200d := h.right.eq_iff (by simp) (by simp)
    rw [CharSet.word, CharSet.word, halphabetic, hcategory, Bool.eq_iff_iff]
    simp only [Bool.or_eq_true, beq_iff_eq, hfirst, hsecond]

end Unicode.CharClass

namespace Written

/-- A meaning with its weight. -/
structure Weighed (α : Type) where
  meaning : α
  weight : Nat

/-- The Unicode class of a shorthand. -/
def Shorthand.unicodeClass : Shorthand → CharClass
  | digit => .ofCategories (· == .decimalNumber)
  | space => .ofBoundaries Unicode.whiteSpacePoints
  | word => .word

/-- The ASCII class of a shorthand. -/
def Shorthand.asciiClass : Shorthand → CharClass
  | digit => .ofAscii Char.isDigit
  | space => .ofAscii fun c => c == ' ' || (9 ≤ c.toNat && c.toNat ≤ 13)
  | word => .ofAscii CharSet.asciiWord

/-- A named ASCII class. -/
def AsciiClass.toCharClass : AsciiClass → CharClass
  | alnum => .ofAscii Char.isAlphanum
  | alpha => .ofAscii Char.isAlpha
  | ascii => .ofAscii fun _ => true
  | blank => .ofAscii fun c => c == ' ' || c == '\t'
  | cntrl => .ofAscii fun c => c.toNat < 32 || c.toNat == 127
  | digit => .ofAscii Char.isDigit
  | graph => .between '!' '~'
  | lower => .ofAscii Char.isLower
  | print => .between ' ' '~'
  | punct => .difference (.between '!' '~') (.ofAscii Char.isAlphanum)
  | space => .ofAscii fun c => c == ' ' || (9 ≤ c.toNat && c.toNat ≤ 13)
  | upper => .ofAscii Char.isUpper
  | word => .ofAscii CharSet.asciiWord
  | xdigit => .ofAscii fun c => (Text.hexDigit? c).isSome

/-- The characters of a property. One name is looked up among properties,
categories and scripts in this order, but three short names belong to
categories alone. -/
def Property.toCharClass? : Property → Option CharClass
  | named name =>
      let key := Unicode.comparable name
      let property := if key == "cf" || key == "sc" || key == "lc" then none
        else Unicode.propertyOf? key
      property <|> Unicode.categoryOf? key <|> Unicode.scriptOf? key
  | valued name value denied =>
      let key := Unicode.comparable value
      let found := match Unicode.comparable name with
        | "gc" | "generalcategory" => Unicode.categoryOf? key
        | "sc" | "script" | "scx" | "scriptextensions" => Unicode.scriptOf? key
        | _ => none
      found.map (CharClass.orComplement denied)

/-- What an operation makes of membership in two sets. -/
def SetOperation.holds : SetOperation → Bool → Bool → Bool
  | intersection, a, b => a && b
  | difference, a, b => a && !b
  | symmetricDifference, a, b => a != b

namespace Set

/-- What a set between brackets holds in Unicode mode. -/
def unicodeClass? (ignoreCase : Bool) : Set → Option CharClass
  | nothing => some .none
  | range low high => some (.between low.char high.char)
  | shorthand kind negated => some (kind.unicodeClass.orComplement negated)
  | property which negated =>
      which.toCharClass?.map fun s => (s.underCase ignoreCase true).orComplement negated
  | ascii which negated =>
      some ((which.toCharClass.underCase ignoreCase true).orComplement negated)
  | bracketed negated body =>
      (unicodeClass? ignoreCase body).map fun s =>
        (s.underCase ignoreCase true).orComplement negated
  | union left right => do
      let a ← unicodeClass? ignoreCase left
      let b ← unicodeClass? ignoreCase right
      return a.union b
  | operation which left right => do
      let a ← unicodeClass? ignoreCase left
      let b ← unicodeClass? ignoreCase right
      return .combine which.holds (a.underCase ignoreCase true) (b.underCase ignoreCase true)

/-- The character of a literal that stands for one byte. -/
def byteOf? (l : Literal) : Option Char := if l.char.toNat < 128 then some l.char else none

/-- What a set between brackets holds outside Unicode mode: ASCII
characters, and no complement. -/
def asciiClass? (ignoreCase : Bool) : Set → Option CharClass
  | nothing => some .none
  | range low high => do
      let a ← byteOf? low
      let b ← byteOf? high
      return .between a b
  | shorthand kind negated => if negated then none else some kind.asciiClass
  | property _ _ => none
  | ascii which negated =>
      if negated then none else some (which.toCharClass.underCase ignoreCase false)
  | bracketed negated body =>
      if negated then none
      else (asciiClass? ignoreCase body).map (CharClass.underCase ignoreCase false)
  | union left right => do
      let a ← asciiClass? ignoreCase left
      let b ← asciiClass? ignoreCase right
      return a.union b
  | operation which left right => do
      let a ← asciiClass? ignoreCase left
      let b ← asciiClass? ignoreCase right
      return .combine which.holds (a.underCase ignoreCase false) (b.underCase ignoreCase false)

/-- What a set between brackets holds under the flags. -/
def toCharClass? (flags : Flags) (s : Set) : Option CharClass :=
  let ignoreCase := flags.contains .ignoreCase
  if flags.contains .unicode then s.unicodeClass? ignoreCase else s.asciiClass? ignoreCase

end Set

/-- The anchor of a mark under the flags. -/
def Mark.anchor (flags : Flags) (m : Mark) : Anchor :=
  let multiLine := flags.contains .multiLine
  let crlf := flags.contains .crlf
  let word (edge : WordEdge) : Anchor :=
    if flags.contains .unicode then .word edge else .asciiWord edge
  match m with
  | caret => if multiLine then (if crlf then .lineStartCrlf else .lineStart) else .textStart
  | dollar => if multiLine then (if crlf then .lineEndCrlf else .lineEnd) else .textEnd
  | textStart => .textStart
  | textEnd => .textEnd
  | boundary => word .boundary
  | interior => word .interior
  | wordStart => word .start
  | wordEnd => word .finish
  | wordStartHalf => word .startHalf
  | wordEndHalf => word .finishHalf

namespace Node

/-- The class of a literal. -/
def literal? (flags : Flags) (l : Literal) : Option CharClass :=
  let unicode := flags.contains .unicode
  if !unicode && l.asByte && 128 ≤ l.char.toNat then none
  else some ((CharClass.single l.char).underCase (flags.contains .ignoreCase) unicode)

/-- The class of a dot: any character but those that end a line. -/
def dot? (flags : Flags) : Option CharClass :=
  if !flags.contains .unicode then none
  else if flags.contains .dotMatchesNewline then some .all
  else if flags.contains .crlf then some (CharClass.single '\n' |>.union (.single '\r')).complement
  else some (CharClass.single '\n').complement

/-- The class of a leaf that is one: of a literal, a dot or a set. -/
def toCharClass? (flags : Flags) : Node → Option CharClass
  | literal l => literal? flags l
  | dot => dot? flags
  | shorthand kind negated => Set.toCharClass? flags (.shorthand kind negated)
  | property which negated => Set.toCharClass? flags (.property which negated)
  | bracketed negated body => Set.toCharClass? flags (.bracketed negated body)
  | _ => none

/-- What a tree describes under the flags at its front, and the flags at
its end. -/
def meaning? (flags : Flags) : Node → Option (Weighed (Pattern CharSet Anchor) × Flags)
  | nothing => some (⟨.empty, 0⟩, flags)
  | Node.flags change => some (⟨.empty, 0⟩, flags.apply change)
  | mark m => some (⟨.look (m.anchor flags), stateWeight⟩, flags)
  | group change body => do
      let (p, _) ← meaning? (flags.apply change) body
      return (p, flags)
  | loop least most body => do
      let (p, after) ← meaning? flags body
      let copies := most.getD (max least 1)
      let weight := copies * p.weight + choiceWeight * (copies - least + 1)
      return (⟨.loop least most p.meaning, weight⟩, after)
  | seq first second => do
      let (p, between) ← meaning? flags first
      let (q, after) ← meaning? between second
      return (⟨.seq p.meaning q.meaning, p.weight + q.weight⟩, after)
  | either left right => do
      let (p, between) ← meaning? flags left
      let (q, after) ← meaning? between right
      return (⟨.either p.meaning q.meaning, p.weight + q.weight + choiceWeight⟩, after)
  | leaf => (leaf.toCharClass? flags).map fun s => (⟨.one s.holds, s.weight⟩, flags)

end Node

end Written

/-- A pattern that can be searched for, with the text it was written in. -/
structure TextPattern where
  source : String
  pattern : Pattern CharSet Anchor

namespace TextPattern

/-- The pattern written in a text, unless the text is no pattern. It starts
out in Unicode mode. -/
def ofSource? (source : String) : Option TextPattern := do
  let node ← Written.readPattern? source.toList
  let (p, _) ← node.meaning? [.unicode]
  if p.weight ≤ weightLimit then return ⟨source, p.meaning⟩ else none

/-- Some stretch of the text fits the pattern. -/
def isMatch (p : TextPattern) (text : String) : Bool := p.pattern.occursIn text.toList

end TextPattern

end Criteria
