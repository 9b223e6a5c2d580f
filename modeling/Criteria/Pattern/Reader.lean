import Criteria.Pattern.Written
import Criteria.Text.Hexadecimal
import Criteria.Unicode.Alphabetic
import Criteria.Unicode.Category
import Criteria.Unicode.WhiteSpace
/-!
# Reading a written pattern

`readPattern?` turns a text into the tree of a pattern, or refuses it. Each
reader takes the rest of the text and returns what it read with what is
left. In verbose mode white space and comments count for nothing between
the parts of a pattern, and inside most of them; `advance` is the step that
passes over them. Brackets and groups nest at most 250 deep.
-/

namespace Criteria.Written

open Text Unicode

/-! ## Steps -/

/-- Passes over white space and comments, from inside a comment or not. -/
def skipVerbose : Bool → List Char → List Char
  | _, [] => []
  | true, c :: rest => skipVerbose (c != '\n') rest
  | false, c :: rest =>
      if isWhiteSpace c then skipVerbose false rest
      else if c = '#' then skipVerbose true rest
      else c :: rest

/-- Passes over white space and comments where the mode is verbose. -/
def skip (verbose : Bool) (text : List Char) : List Char :=
  if verbose then skipVerbose false text else text

/-- Passes over one character, and over what does not count after it. -/
def advance (verbose : Bool) (text : List Char) : List Char := skip verbose text.tail

/-- Looks past one character for the next one that counts. A comment sign
is passed over alone, so the first character of a comment is seen. -/
def peekVerbose : Bool → List Char → Option Char
  | _, [] => none
  | inComment, c :: rest =>
      if isWhiteSpace c then peekVerbose inComment rest
      else if !inComment && c == '#' then peekVerbose true rest
      else some c

/-- The next character after the first one that counts. -/
def peek (verbose : Bool) (text : List Char) : Option Char :=
  if verbose then peekVerbose false text.tail else text.tail.head?

/-! ## Numbers -/

/-- The largest count that a repetition can have. -/
def countLimit : Nat := Nat.pow 2 32

/-- Reads decimal digits; the value so far, if there is a digit yet. -/
def readDigits (verbose : Bool) : Nat → Option Nat → List Char → Option Nat × List Char
  | 0, value, text => (value, text)
  | fuel + 1, value, text =>
      match text with
      | [] => (value, [])
      | c :: _ =>
          if c.isDigit then
            readDigits verbose fuel (some (value.getD 0 * 10 + (c.toNat - 48))) (advance verbose text)
          else (value, text)

/-- Reads a count between blanks. -/
def readCount (verbose : Bool) (text : List Char) : Option (Nat × List Char) :=
  let text := text.dropWhile isWhiteSpace
  let (value, text) := readDigits verbose text.length none text
  match value with
  | some n => if n < countLimit then some (n, skip verbose (text.dropWhile isWhiteSpace)) else none
  | none => none

/-- Reads a fixed number of hexadecimal digits. -/
def readHexDigits (verbose : Bool) : Nat → Nat → List Char → Option (Nat × List Char)
  | 0, value, text => some (value, text)
  | digits + 1, value, text =>
      match text with
      | [] => none
      | c :: _ => do
          let d ← hexDigit? c
          readHexDigits verbose digits (value * 16 + d) (advance verbose text)

/-- Reads hexadecimal digits up to a closing brace; at least one. -/
def readHexBraced (verbose : Bool) : Nat → Option Nat → List Char → Option (Nat × List Char)
  | 0, _, _ => none
  | fuel + 1, value, text =>
      match text with
      | [] => none
      | '\x7d' :: _ => value.map fun n => (n, advance verbose text)
      | c :: _ => do
          let d ← hexDigit? c
          readHexBraced verbose fuel (some (value.getD 0 * 16 + d)) (advance verbose text)

/-- Reads a character by its number, after the letter at the front, which
tells how many digits there are without braces. -/
def readHex (verbose : Bool) (text : List Char) : Option (Literal × List Char) :=
  match text with
  | [] => none
  | kind :: _ =>
      match advance verbose text with
      | [] => none
      | '\x7b' :: rest => do
          let inner := skip verbose rest
          let (n, rest) ← readHexBraced verbose (inner.length + 1) none inner
          let c ← charOf? n
          return (⟨c, false⟩, rest)
      | digits => do
          let width := if kind = 'x' then 2 else if kind = 'u' then 4 else 8
          let (n, rest) ← readHexDigits verbose width 0 digits
          let c ← charOf? n
          return (⟨c, kind == 'x'⟩, rest)

/-! ## Escapes -/

/-- The characters with a meaning of their own. -/
def isMeta (c : Char) : Bool := "\\.+*?()|[]\x7b\x7d^$#&-~".toList.contains c

/-- The ASCII characters that a backslash leaves as they are. -/
def isEscapable (c : Char) : Bool :=
  isMeta c || (c.toNat < 128 && !c.isAlphanum && c != '<' && c != '>')

/-- Reads the name of a property up to a closing brace. -/
def readName (verbose : Bool) : Nat → List Char → List Char → Option (List Char × List Char)
  | 0, _, _ => none
  | fuel + 1, name, text =>
      match text with
      | [] => none
      | '\x7d' :: rest => some (name.reverse, rest)
      | c :: _ => readName verbose fuel (c :: name) (advance verbose text)

/-- Splits a name at the first occurrence of a separator. -/
def splitAtFirst (separator : List Char) : List Char → Option (List Char × List Char)
  | [] => none
  | c :: rest =>
      if separator.isPrefixOf (c :: rest) then some ([], (c :: rest).drop separator.length)
      else (splitAtFirst separator rest).map fun (a, b) => (c :: a, b)

/-- What a braced name says: a property and a denied value, a property and
a value, or one name. -/
def propertyOf (name : List Char) : Property :=
  match splitAtFirst ['!', '='] name with
  | some (a, b) => .valued (String.ofList a) (String.ofList b) true
  | none =>
      match splitAtFirst [':'] name with
      | some (a, b) => .valued (String.ofList a) (String.ofList b) false
      | none =>
          match splitAtFirst ['='] name with
          | some (a, b) => .valued (String.ofList a) (String.ofList b) false
          | none => .named (String.ofList name)

/-- Reads a property class, after the letter at the front. -/
def readProperty (verbose : Bool) (text : List Char) : Option (Property × List Char) :=
  match advance verbose text with
  | [] => none
  | '\x7b' :: rest => do
      let inner := skip verbose rest
      let (name, rest) ← readName verbose (inner.length + 1) [] inner
      return (propertyOf name, rest)
  | '\\' :: _ => none
  | c :: rest => some (.named (String.singleton c), skip verbose rest)

/-- Reads the letters and dashes of a word mark's name. -/
def readMarkName (verbose : Bool) : Nat → List Char → List Char → List Char × List Char
  | 0, name, text => (name.reverse, text)
  | fuel + 1, name, text =>
      match text with
      | [] => (name.reverse, [])
      | c :: _ =>
          if c.isAlpha || c = '-' then readMarkName verbose fuel (c :: name) (advance verbose text)
          else (name.reverse, text)

/-- Reads what follows a word boundary mark: a braced name makes it one of
four kinds. A brace that starts no name belongs to a repetition. -/
def readBoundary (verbose : Bool) (text : List Char) : Option (Mark × List Char) :=
  match text with
  | '\x7b' :: rest =>
      match skip verbose rest with
      | [] => none
      | c :: more =>
          if c.isAlpha || c = '-' then
            let (name, rest) := readMarkName verbose (more.length + 1) [] (c :: more)
            match rest with
            | '\x7d' :: rest =>
                match String.ofList name with
                | "start" => some (.wordStart, rest)
                | "end" => some (.wordEnd, rest)
                | "start-half" => some (.wordStartHalf, rest)
                | "end-half" => some (.wordEndHalf, rest)
                | _ => none
            | _ => none
          else some (.boundary, text)
  | _ => some (.boundary, text)

/-- Reads what a backslash begins, from after the backslash. -/
def readEscape (verbose : Bool) (text : List Char) : Option (Node × List Char) :=
  match text with
  | [] => none
  | c :: rest =>
      let literal (c : Char) : Option (Node × List Char) := some (.literal ⟨c, false⟩, rest)
      let mark (m : Mark) : Option (Node × List Char) := some (.mark m, rest)
      if c = 'x' || c = 'u' || c = 'U' then
        (readHex verbose text).map fun (l, rest) => (.literal l, rest)
      else if c = 'p' || c = 'P' then
        (readProperty verbose text).map fun (p, rest) => (.property p (c == 'P'), rest)
      else if isEscapable c then literal c
      else
        match c with
        | 'd' => some (.shorthand .digit false, rest)
        | 'D' => some (.shorthand .digit true, rest)
        | 's' => some (.shorthand .space false, rest)
        | 'S' => some (.shorthand .space true, rest)
        | 'w' => some (.shorthand .word false, rest)
        | 'W' => some (.shorthand .word true, rest)
        | 'a' => literal '\x07'
        | 'f' => literal '\x0c'
        | 't' => literal '\t'
        | 'n' => literal '\n'
        | 'r' => literal '\r'
        | 'v' => literal '\x0b'
        | 'A' => mark .textStart
        | 'z' => mark .textEnd
        | 'B' => mark .interior
        | '<' => mark .wordStart
        | '>' => mark .wordEnd
        | 'b' => (readBoundary verbose rest).map fun (m, rest) => (.mark m, rest)
        | _ => none

/-! ## Sets -/

/-- A part of a set with how deep it nests. -/
structure SetPart where
  set : Set
  depth : Nat

/-- One character for itself. -/
def SetPart.single (c : Char) : SetPart := ⟨.range ⟨c, false⟩ ⟨c, false⟩, 0⟩

/-- The parts of a set together; they come in reverse. -/
def SetPart.union : List SetPart → SetPart
  | [] => ⟨.nothing, 0⟩
  | [part] => part
  | part :: parts =>
      let all := parts.foldl (fun a b => SetPart.mk (.union b.set a.set) (max a.depth b.depth)) part
      ⟨all.set, all.depth + 1⟩

/-- The right side of a set operation, if one is pending. -/
def SetPart.close (pending : Option (SetOperation × SetPart)) (right : SetPart) : SetPart :=
  match pending with
  | none => right
  | some (which, left) =>
      ⟨.operation which left.set right.set, max left.depth right.depth + 1⟩

/-- The names of the ASCII classes. -/
def asciiClassOf? : String → Option AsciiClass
  | "alnum" => some .alnum
  | "alpha" => some .alpha
  | "ascii" => some .ascii
  | "blank" => some .blank
  | "cntrl" => some .cntrl
  | "digit" => some .digit
  | "graph" => some .graph
  | "lower" => some .lower
  | "print" => some .print
  | "punct" => some .punct
  | "space" => some .space
  | "upper" => some .upper
  | "word" => some .word
  | "xdigit" => some .xdigit
  | _ => none

/-- Reads a named ASCII class between brackets and colons, if there is one
with this form and a known name. -/
def readAsciiClass? (text : List Char) : Option (Set × List Char) :=
  match text with
  | '[' :: ':' :: rest =>
      let (negated, rest) := match rest with
        | '^' :: rest => (true, rest)
        | rest => (false, rest)
      match rest.dropWhile (· != ':') with
      | ':' :: ']' :: after =>
          (asciiClassOf? (String.ofList (rest.takeWhile (· != ':')))).map fun which =>
            (.ascii which negated, after)
      | _ => none
  | _ => none

/-- A set's part from what was read outside a range. -/
def setOf? : Node → Option Set
  | .literal l => some (.range l l)
  | .shorthand kind negated => some (.shorthand kind negated)
  | .property which negated => some (.property which negated)
  | _ => none

/-- Reads one character or escape inside a set. -/
def readSetPrimitive (verbose : Bool) (text : List Char) : Option (Node × List Char) :=
  match text with
  | [] => none
  | '\\' :: rest => readEscape verbose rest
  | c :: rest => some (.literal ⟨c, false⟩, rest)

/-- Reads one part of a set: a primitive, or a range between two
characters. A dash before the closing bracket or another dash makes no
range. -/
def readSetRange (verbose : Bool) (text : List Char) : Option (Set × List Char) := do
  let (first, rest) ← readSetPrimitive verbose text
  let rest := skip verbose rest
  match rest with
  | [] => none
  | c :: _ =>
      if c != '-' || peek verbose rest == some ']' || peek verbose rest == some '-' then
        return (← setOf? first, rest)
      else
        let rest := advance verbose rest
        let (second, rest) ← readSetPrimitive verbose rest
        match first, second with
        | .literal low, .literal high =>
            if low.char ≤ high.char then return (.range low high, rest) else none
        | _, _ => none

/-- Reads dashes at the front of a set. -/
def readDashes (verbose : Bool) : Nat → List SetPart → List Char → List SetPart × List Char
  | 0, parts, text => (parts, text)
  | fuel + 1, parts, text =>
      match text with
      | '-' :: _ =>
          readDashes verbose fuel (.single '-' :: parts) (advance verbose text)
      | _ => (parts, text)

/-- Reads the opening of a set, from its bracket on: whether it is negated,
and the dashes or the closing bracket that stand first and for
themselves. -/
def openSet (verbose : Bool) (text : List Char) : Option (Bool × List SetPart × List Char) :=
  let text := advance verbose text
  let (negated, text) := match text with
    | '^' :: _ => (true, advance verbose text)
    | _ => (false, text)
  let (parts, text) := readDashes verbose text.length [] text
  let (parts, text) := match parts, text with
    | [], ']' :: _ => ([SetPart.single ']'], advance verbose text)
    | parts, text => (parts, text)
  if text.isEmpty then none else some (negated, parts, text)

/-- Reads a set up to its closing bracket. -/
def readSet (verbose : Bool) : Nat → Option (SetOperation × SetPart) → List SetPart → List Char →
    Option (SetPart × List Char)
  | 0, _, _, _ => none
  | fuel + 1, pending, parts, text =>
      let operate (which : SetOperation) (rest : List Char) :=
        readSet verbose fuel (some (which, SetPart.close pending (SetPart.union parts))) [] rest
      match skip verbose text with
      | [] => none
      | ']' :: rest => some (SetPart.close pending (SetPart.union parts), rest)
      | '[' :: rest =>
          match readAsciiClass? ('[' :: rest) with
          | some (set, rest) => readSet verbose fuel pending (⟨set, 0⟩ :: parts) rest
          | none => do
              let (negated, first, rest) ← openSet verbose ('[' :: rest)
              let (body, rest) ← readSet verbose fuel none first rest
              readSet verbose fuel pending (⟨.bracketed negated body.set, body.depth + 1⟩ :: parts) rest
      | '&' :: '&' :: rest => operate .intersection rest
      | '-' :: '-' :: rest => operate .difference rest
      | '~' :: '~' :: rest => operate .symmetricDifference rest
      | text => do
          let (set, rest) ← readSetRange verbose text
          readSet verbose fuel pending (⟨set, 0⟩ :: parts) rest

/-! ## Groups and flags -/

/-- Reads flags up to the colon or the bracket that ends them: each at most
once, one minus at most, and none at the end. -/
def readFlags : FlagChange → Bool → Bool → List Char → Option (FlagChange × Char × List Char)
  | _, _, _, [] => none
  | change, on, dangling, c :: rest =>
      if c = ':' || c = ')' then if dangling then none else some (change, c, rest)
      else if c = '-' then if on then readFlags change false true rest else none
      else match Flag.ofLetter? c with
        | none => none
        | some f =>
            if (FlagChange.state? change f).isSome then none
            else readFlags (change ++ [(f, on)]) on false rest

/-- A character that can stand in a group's name, at its front or not. -/
def isNameChar (first : Bool) (c : Char) : Bool :=
  c == '_' || isAlphabetic c ||
    (!first && (c == '.' || c == '[' || c == ']' || isNumeric c))

/-- Reads a group's name up to the angle that ends it. -/
def readGroupName (text : List Char) : Option (List Char × List Char) :=
  match text.takeWhile (· != '>'), text.dropWhile (· != '>') with
  | c :: name, '>' :: rest =>
      if isNameChar true c && name.all (isNameChar false) then some (c :: name, rest) else none
  | _, _ => none

/-- How a group begins. -/
inductive Opening
  /-- No group: flags for what follows. -/
  | flags (change : FlagChange)
  | group (change : FlagChange)
  | named (name : List Char)

/-- Reads the beginning of a group, from after its bracket. A group that
looks around is none. -/
def readOpening (verbose : Bool) (text : List Char) : Option (Opening × List Char) :=
  match skip verbose text with
  | '?' :: '=' :: _ => none
  | '?' :: '!' :: _ => none
  | '?' :: '<' :: '=' :: _ => none
  | '?' :: '<' :: '!' :: _ => none
  | '?' :: 'P' :: '<' :: rest => (readGroupName rest).map fun (name, rest) => (.named name, rest)
  | '?' :: '<' :: rest => (readGroupName rest).map fun (name, rest) => (.named name, rest)
  | '?' :: rest => do
      let (change, last, rest) ← readFlags [] true false rest
      if last = ':' then return (.group change, rest)
      else if change.isEmpty then none
      else return (.flags change, rest)
  | rest => some (.group [], rest)

/-! ## Patterns -/

/-- A part of a pattern with how deep it nests. -/
structure Part where
  node : Node
  depth : Nat

namespace Part

/-- Parts one after another, which come in reverse. -/
def sequence : List Part → Part
  | [] => ⟨.nothing, 0⟩
  | [part] => part
  | part :: parts =>
      let all := parts.foldl (fun a b => Part.mk (.seq b.node a.node) (max a.depth b.depth)) part
      ⟨all.node, all.depth + 1⟩

/-- The alternatives of a pattern, which come in reverse. -/
def alternatives : List Part → Part
  | [] => ⟨.nothing, 0⟩
  | [part] => part
  | part :: parts =>
      let all := parts.foldl (fun a b => Part.mk (.either b.node a.node) (max a.depth b.depth)) part
      ⟨all.node, all.depth + 1⟩

/-- Repeats the last part. Flags are no part that can be repeated. -/
def repeatLast (least : Nat) (most : Option Nat) : List Part → Option (List Part)
  | [] => none
  | ⟨.flags _, _⟩ :: _ => none
  | part :: parts => some (⟨.loop least most part.node, part.depth + 1⟩ :: parts)

end Part

/-- Passes over the question mark that makes a repetition lazy. What a
pattern describes does not depend on it. -/
def skipLazy : List Char → List Char
  | '?' :: rest => rest
  | rest => rest

/-- Reads a repetition with counts, from after its brace. -/
def readCounts (verbose : Bool) (text : List Char) : Option (Nat × Option Nat × List Char) := do
  let text := skip verbose text
  if text.isEmpty then none
  let (least, text) ← readCount verbose text
  let (most, text) ← match text with
    | ',' :: _ =>
        match advance verbose text with
        | [] => none
        | '\x7d' :: rest => some (none, '\x7d' :: rest)
        | text => (readCount verbose text).map fun (n, rest) => (some n, rest)
    | text => some (some least, text)
  match text with
  | '\x7d' :: rest =>
      if most.all (least ≤ ·) then return (least, most, skipLazy (skip verbose rest)) else none
  | _ => none

/-- Reads a pattern, to the end of the text or to the bracket that closes
its group. The parts since the last bar and the alternatives before it come
in reverse; the names of groups may not repeat. -/
def readParts (verbose inGroup : Bool) (names : List (List Char)) (alternatives parts : List Part) :
    Nat → List Char → Option (Part × List (List Char) × List Char)
  | 0, _ => none
  | fuel + 1, text =>
      let finish (rest : List Char) :=
        some (Part.alternatives (Part.sequence parts :: alternatives), names, rest)
      let go (part : Part) (rest : List Char) :=
        readParts verbose inGroup names alternatives (part :: parts) fuel rest
      let again (least : Nat) (most : Option Nat) (rest : List Char) := do
        let parts ← Part.repeatLast least most parts
        readParts verbose inGroup names alternatives parts fuel rest
      let group (change : FlagChange) (names : List (List Char)) (rest : List Char) := do
        let (body, names, rest) ←
          readParts ((FlagChange.state? change .verbose).getD verbose) true names [] [] fuel rest
        readParts verbose inGroup names alternatives
          (⟨.group change body.node, body.depth + 1⟩ :: parts) fuel rest
      match skip verbose text with
      | [] => if inGroup then none else finish []
      | ')' :: rest => if inGroup then finish rest else none
      | '(' :: rest => do
          match ← readOpening verbose rest with
          | (.flags change, rest) =>
              readParts ((FlagChange.state? change .verbose).getD verbose) inGroup names alternatives
                (⟨.flags change, 0⟩ :: parts) fuel rest
          | (.group change, rest) => group change names rest
          | (.named name, rest) =>
              if names.contains name then none else group [] (name :: names) rest
      | '|' :: rest =>
          readParts verbose inGroup names (Part.sequence parts :: alternatives) [] fuel rest
      | '[' :: rest => do
          let (negated, first, rest) ← openSet verbose ('[' :: rest)
          let (body, rest) ← readSet verbose (rest.length + 1) none first rest
          go ⟨.bracketed negated body.set, body.depth + 1⟩ rest
      | '?' :: rest => again 0 (some 1) (skipLazy rest)
      | '*' :: rest => again 0 none (skipLazy rest)
      | '+' :: rest => again 1 none (skipLazy rest)
      | '\x7b' :: rest => do
          let (least, most, rest) ← readCounts verbose rest
          again least most rest
      | '\\' :: rest => do
          let (node, rest) ← readEscape verbose rest
          go ⟨node, 0⟩ rest
      | '.' :: rest => go ⟨.dot, 0⟩ rest
      | '^' :: rest => go ⟨.mark .caret, 0⟩ rest
      | '$' :: rest => go ⟨.mark .dollar, 0⟩ rest
      | c :: rest => go ⟨.literal ⟨c, false⟩, 0⟩ rest

/-- How deep a pattern may nest. -/
def depthLimit : Nat := 250

/-- The tree of a written pattern, unless the text is none. -/
def readPattern? (text : List Char) : Option Node := do
  let (part, _, _) ← readParts false false [] [] [] (text.length + 1) text
  if part.depth ≤ depthLimit then return part.node else none

end Criteria.Written
