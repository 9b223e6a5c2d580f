import Criteria.Yaml.Block
import Criteria.Yaml.Quoted
import Criteria.Yaml.Tag
/-!
# The tokens of a flat document

A flat document holds one mapping of scalars to scalars, either a block of
lines with one indentation or a flow between braces. Its tokens are found
from left to right. Two things are known only later: that a scalar is a key,
when a colon follows it on its line, and that a block begins, when its first
key is found. `Reading.candidate` remembers where the key would stand.

Everything that belongs to no flat document is refused at sight: sequences,
deeper mappings, scalars without quotes that go on after white space.
-/

namespace Criteria.Yaml

/-- A token of a flat document. -/
inductive Token
  | directive (d : Directive)
  | documentStart
  | documentEnd
  | blockStart
  | blockEnd
  | flowStart
  | flowEnd
  | comma
  | key
  | value
  | anchor (name : String)
  | alias (name : String)
  | tag (t : WrittenTag)
  | scalar (text : String) (style : Style)
deriving DecidableEq, Repr

/-- A place where a key may turn out to have begun. -/
structure Candidate where
  /-- How many tokens come before it. -/
  before : Nat
  line : Nat
  column : Nat
  /-- Nothing but a key can stand there. -/
  required : Bool

/-- A document being read; its tokens are in reverse. -/
structure Reading where
  place : Cursor
  tokens : List Token
  /-- Between the braces of a flow mapping. -/
  flow : Bool
  /-- The column of the block, once it has begun. -/
  indent : Option Nat
  /-- A key may begin here. -/
  keyAllowed : Bool
  candidate : Option Candidate

namespace Reading

/-- The start of a text. -/
def start (text : List Char) : Reading := ⟨.start text, [], false, none, true, none⟩

/-- How far from its start a key may reach, and the colon stand. -/
def keyLimit : Nat := 1024

/-- The document with one more token, read up to a place. -/
def emit (s : Reading) (t : Token) (place : Cursor) : Reading :=
  { s with tokens := t :: s.tokens, place := place }

/-- The document with a token put in after a number of them. -/
def insert (s : Reading) (before : Nat) (t : Token) : Reading :=
  let later := s.tokens.length - before
  { s with tokens := s.tokens.take later ++ t :: s.tokens.drop later }

/-! ## Candidates -/

/-- Gives up the candidate, unless it has to be a key. -/
def dropCandidate (s : Reading) : Option Reading :=
  if s.candidate.any (·.required) then none else some { s with candidate := none }

/-- Gives up a candidate that is too far back, or on another line. -/
def expireCandidate (s : Reading) : Option Reading :=
  match s.candidate with
  | some k =>
      if k.line < s.place.line || k.column + keyLimit < s.place.column then s.dropCandidate
      else some s
  | none => some s

/-- Makes this place a candidate, where a key may begin. After it none may
for a while. -/
def mayBeKey (s : Reading) : Option Reading :=
  if s.keyAllowed then do
    let s ← s.dropCandidate
    let required := !s.flow && s.indent == some s.place.column
    return { s with
      keyAllowed := false
      candidate := some ⟨s.tokens.length, s.place.line, s.place.column, required⟩ }
  else some s

/-! ## Blocks -/

/-- Begins the block at a column, before the tokens after a number of them.
A block inside a block is refused. -/
def openBlock (s : Reading) (before column : Nat) : Option Reading :=
  if s.flow then some s
  else match s.indent with
    | none => some { s.insert before .blockStart with indent := some column }
    | some i => if i < column then none else some s

/-- Ends the block, if one has begun. -/
def closeBlock (s : Reading) : Reading :=
  if s.flow || s.indent.isNone then s
  else { s with tokens := .blockEnd :: s.tokens, indent := none }

/-- Ends the block where a line starts to the left of it. -/
def closeBlockAt (s : Reading) : Reading :=
  if s.indent.any (s.place.column < ·) then s.closeBlock else s

/-! ## Scalars without quotes -/

/-- The signs that part the entries of a flow mapping. -/
def isFlowSign (c : Char) : Bool := [',', '[', ']', '\x7b', '\x7d'].contains c

/-- The signs that no plain scalar of a flat document starts with. -/
def isSign (c : Char) : Bool := "-?:,[]\x7b\x7d#&*!|>\x27\x22%@\x60".toList.contains c

/-- How many characters a word has: it ends before white space, before a
colon with white space after it, and in a flow before its signs. -/
def wordLength (flow : Bool) : List Char → Nat
  | [] => 0
  | c :: rest =>
      if isBlank c || isBreak c || (c = ':' && atSpace rest) || (flow && isFlowSign c) then 0
      else wordLength flow rest + 1

/-- Passes over white space after a word. At the start of a line a tab may
not stand left of a column. The result tells whether a line ended. -/
def skipAfterWord (least : Nat) : Nat → Bool → Cursor → Option (Bool × Cursor)
  | 0, crossed, c => some (crossed, c)
  | fuel + 1, crossed, c =>
      match c.rest with
      | [] => some (crossed, c)
      | ch :: _ =>
          if isBreak ch then skipAfterWord least fuel true c.next
          else if isBlank ch then
            if crossed && c.column < least && ch = '\t' then none
            else skipAfterWord least fuel crossed c.next
          else some (crossed, c)

/-- A word ends here for good: nothing that follows belongs to the scalar. -/
def wordEnds (flow : Bool) (least : Nat) (c : Cursor) : Bool :=
  match c.rest with
  | [] => true
  | ch :: rest =>
      (!flow && c.column < least) || (c.column == 0 && atEitherMarker c.rest) || ch == '#' ||
        (ch == ':' && atSpace rest) || (flow && isFlowSign ch)

/-- Reads a plain scalar of one word. -/
def readWord (s : Reading) : Option Reading := do
  let s ← s.mayBeKey
  let length := wordLength s.flow s.place.rest
  let word := String.ofList (s.place.rest.take length)
  let least := s.indent.elim 0 (· + 1)
  let (crossed, after) ← skipAfterWord least s.place.rest.length false (s.place.drop length)
  if wordEnds s.flow least after then
    return { s.emit (.scalar word .plain) after with keyAllowed := crossed }
  else none

/-! ## Tokens -/

/-- Passes over white space and comments. A tab counts as white space only
where no key may begin; a line end in a block lets one begin. -/
def skipSpace : Nat → Reading → Reading
  | 0, s => s
  | fuel + 1, s =>
      match s.place.rest with
      | [] => s
      | c :: _ =>
          if c = ' ' || (c = '\t' && (s.flow || !s.keyAllowed))
              || (c = '\ufeff' && s.place.column == 0) then
            skipSpace fuel { s with place := s.place.next }
          else if c = '#' then skipSpace fuel { s with place := s.place.skipComment }
          else if isBreak c then
            skipSpace fuel { s with place := s.place.next, keyAllowed := s.keyAllowed || !s.flow }
          else s

/-- Takes a token that ends the block, and after which no key may begin on
the same line. -/
def between (s : Reading) (t : Token) (place : Cursor) : Option Reading := do
  let s ← s.closeBlock.dropCandidate
  return { s.emit t place with keyAllowed := false }

/-- Takes a colon. It makes a key of the candidate; without one it is the
second half of an explicit entry. -/
def takeColon (s : Reading) : Option Reading :=
  match s.candidate with
  | some k => do
      let opens : Bool := !s.flow && s.indent.isNone
      let s ← s.openBlock k.before k.column
      let s := s.insert (if opens then k.before + 1 else k.before) .key
      return { s.emit .value s.place.next with candidate := none, keyAllowed := false }
  | none =>
      if s.flow then some { s.emit .value s.place.next with keyAllowed := false }
      else if s.keyAllowed then do
        let s ← s.openBlock s.tokens.length s.place.column
        return s.emit .value s.place.next
      else none

/-- Takes a question mark, which begins an explicit entry. -/
def takeQuestion (s : Reading) : Option Reading := do
  if !s.flow && !s.keyAllowed then none
  let s ← s.openBlock s.tokens.length s.place.column
  let s ← s.dropCandidate
  return { s.emit .key s.place.next with keyAllowed := !s.flow }

/-- Takes a block scalar. -/
def takeBlock (s : Reading) (folds : Bool) : Option Reading := do
  let s ← s.dropCandidate
  let (text, after) ← readBlock folds s.indent s.place.next
  let style := if folds then Style.folded else Style.literal
  return { s.emit (.scalar text style) after with keyAllowed := true }

/-- Takes a token that may begin a key, read from after its sign. -/
def takeNamed (s : Reading) (read : Cursor → Option (Token × Cursor)) : Option Reading := do
  let s ← s.mayBeKey
  let (t, after) ← read s.place.next
  return { s.emit t after with keyAllowed := false }

/-- Takes the token that starts with a character, of which `rest` is what
follows. -/
def takeToken (s : Reading) (c : Char) (rest : List Char) : Option Reading :=
  if s.place.column == 0 && c = '%' then do
    let (d, after) ← readDirective s.place.next
    s.between (.directive d) after
  else if s.place.column == 0 && atMarker '-' (c :: rest) then
    s.between .documentStart (s.place.drop 3)
  else if s.place.column == 0 && atMarker '.' (c :: rest) then
    s.between .documentEnd (s.place.drop 3)
  else if c = '\x7b' then
    if s.flow || s.indent.isSome then none
    else some { s.emit .flowStart s.place.next with
      flow := true, keyAllowed := true, candidate := none }
  else if c = '\x7d' then
    if s.flow then some { s.emit .flowEnd s.place.next with
      flow := false, keyAllowed := false, candidate := none }
    else none
  else if c = ',' then
    some { s.emit .comma s.place.next with keyAllowed := true, candidate := none }
  else if c = '?' && (s.flow || atSpace rest) then s.takeQuestion
  else if c = ':' && (s.flow || atSpace rest) then s.takeColon
  else if c = '*' then s.takeNamed fun p => (readAnchor p).map fun (n, p) => (.alias n, p)
  else if c = '&' then s.takeNamed fun p => (readAnchor p).map fun (n, p) => (.anchor n, p)
  else if c = '!' then s.takeNamed fun p => (readTag s.flow p).map fun (t, p) => (.tag t, p)
  else if c = '|' && !s.flow then s.takeBlock false
  else if c = '>' && !s.flow then s.takeBlock true
  else if c = '\x27' || c = '\x22' then
    s.takeNamed fun p => (readQuoted (c = '\x22') p).map fun (t, p) => (.scalar t .quoted, p)
  else if isSign c then none
  else s.readWord

/-- Takes tokens to the end of the text. Each takes a character at least. -/
def takeAll : Nat → Reading → Option Reading
  | 0, _ => none
  | fuel + 1, s => do
      let s ← (skipSpace s.place.rest.length s).expireCandidate
      match s.place.rest with
      | [] => s.closeBlock.dropCandidate
      | c :: rest => takeAll fuel (← s.closeBlockAt.takeToken c rest)

end Reading

/-- The tokens of a text, if it may be a flat document. -/
def Token.ofText? (text : String) : Option (List Token) :=
  let chars := text.toList
  if chars.all isPrintable then
    let chars := unifyBreaks chars
    (Reading.takeAll (chars.length + 1) (.start chars)).map (·.tokens.reverse)
  else none

end Criteria.Yaml
