import Criteria.Yaml.Token
/-!
# Flat documents

`Settings.ofText?` reads a text with one flat document: a mapping of scalars
to scalars, or nothing at all. A node may carry an anchor and a tag, and an
alias stands for the node that carries its name. Whatever else a text is,
several documents included, is refused.
-/

namespace Criteria.Yaml

/-- The nodes with names, the latest first. -/
abbrev Anchors := List (String × Scalar)

/-- The entries of a flat document, in order. -/
abbrev Settings := List (Scalar × Scalar)

/-! ## Nodes -/

/-- What a node carries, and the tokens after it. -/
structure Properties where
  anchor : Option String
  tag : Option String
  rest : List Token

/-- Reads what a node carries: an anchor and a tag, in either order. -/
def readProperties (prefixes : TagPrefixes) : List Token → Option Properties
  | .anchor a :: .tag t :: rest => (t.resolve? prefixes).map (⟨some a, some ·, rest⟩)
  | .tag t :: .anchor a :: rest => (t.resolve? prefixes).map (⟨some a, some ·, rest⟩)
  | .tag t :: rest => (t.resolve? prefixes).map (⟨none, some ·, rest⟩)
  | .anchor a :: rest => some ⟨some a, none, rest⟩
  | rest => some ⟨none, none, rest⟩

/-- The tag of a scalar that is written: a sign alone is none. -/
def writtenTag (tag : Option String) : Option String := if tag = some "!" then none else tag

/-- Reads a scalar, an alias, or nothing where a node may be left out. -/
def readNode (prefixes : TagPrefixes) (anchors : Anchors) (tokens : List Token) :
    Option (Scalar × Anchors × List Token) :=
  match tokens with
  | .alias name :: rest => (anchors.lookup name).map (·, anchors, rest)
  | _ => do
      let p ← readProperties prefixes tokens
      let (s, rest) := match p.rest with
        | .scalar text style :: rest => (⟨text, style, writtenTag p.tag⟩, rest)
        | rest => (Scalar.empty p.tag, rest)
      let anchors := match p.anchor with
        | some a => (a, s) :: anchors
        | none => anchors
      return (s, anchors, rest)

/-- Reads an entry from after the sign of its key; the value may be left
out. -/
def readEntry (prefixes : TagPrefixes) (anchors : Anchors) (tokens : List Token) :
    Option ((Scalar × Scalar) × Anchors × List Token) := do
  let (key, anchors, rest) ← readNode prefixes anchors tokens
  match rest with
  | .value :: rest =>
      let (value, anchors, rest) ← readNode prefixes anchors rest
      return ((key, value), anchors, rest)
  | _ => return ((key, .empty none), anchors, rest)

/-! ## Mappings -/

/-- Reads the entries of a block. -/
def readBlockEntries (prefixes : TagPrefixes) :
    Nat → Anchors → List Token → Option (Settings × List Token)
  | 0, _, _ => none
  | fuel + 1, anchors, tokens =>
      match tokens with
      | .blockEnd :: rest => some ([], rest)
      | .key :: rest => do
          let (entry, anchors, rest) ← readEntry prefixes anchors rest
          let (entries, rest) ← readBlockEntries prefixes fuel anchors rest
          return (entry :: entries, rest)
      | _ => none

/-- Reads the entries of a flow mapping, with a comma between two and
perhaps after the last. -/
def readFlowEntries (prefixes : TagPrefixes) :
    Nat → Anchors → List Token → Option (Settings × List Token)
  | 0, _, _ => none
  | fuel + 1, anchors, tokens =>
      match tokens with
      | .flowEnd :: rest => some ([], rest)
      | .key :: rest => do
          let (entry, anchors, rest) ← readEntry prefixes anchors rest
          let rest ← match rest with
            | .comma :: rest => some rest
            | .flowEnd :: _ => some rest
            | _ => none
          let (entries, rest) ← readFlowEntries prefixes fuel anchors rest
          return (entry :: entries, rest)
      | _ => none

/-! ## Documents -/

/-- The directives at the head, and the tokens after them. -/
def splitDirectives : List Token → List Directive × List Token
  | .directive d :: rest =>
      let (ds, rest) := splitDirectives rest
      (d :: ds, rest)
  | rest => ([], rest)

/-- The versions that directives name. -/
def versions (ds : List Directive) : List (Nat × Nat) :=
  ds.filterMap fun
    | .version major minor => some (major, minor)
    | .tag .. => none

/-- The prefixes that directives declare. -/
def declaredPrefixes (ds : List Directive) : TagPrefixes :=
  ds.filterMap fun
    | .version .. => none
    | .tag handle address => some (handle, address)

/-- One version at most, of two that are known, and a prefix at most for
each handle. -/
def directivesAgree (ds : List Directive) : Bool :=
  (versions ds).length ≤ 1 && (versions ds).all [(1, 1), (1, 2)].contains &&
    ((declaredPrefixes ds).map (·.1)).Nodup

/-- Reads what a document holds, `marked` if a mark stands before it. -/
def readRoot (prefixes : TagPrefixes) (marked : Bool) (tokens : List Token) :
    Option (Settings × List Token) := do
  let p ← readProperties prefixes tokens
  match p.rest with
  | .blockStart :: rest => readBlockEntries prefixes rest.length [] rest
  | .flowStart :: rest => readFlowEntries prefixes rest.length [] rest
  | rest => if marked || p.anchor.isSome || p.tag.isSome then some ([], rest) else none

/-- The entries of the only document of a row of tokens. -/
def Settings.ofTokens? (tokens : List Token) : Option Settings := do
  if tokens.isEmpty then return []
  let (directives, rest) := splitDirectives tokens
  if !directivesAgree directives then none
  let marked := rest.head? == some .documentStart
  if !directives.isEmpty && !marked then none
  let prefixes := declaredPrefixes directives ++ standardPrefixes
  let (entries, rest) ← readRoot prefixes marked (if marked then rest.tail else rest)
  if rest.all (· == .documentEnd) then return entries else none

/-- The entries of the flat document in a text. -/
def Settings.ofText? (text : String) : Option Settings :=
  (Token.ofText? text).bind Settings.ofTokens?

end Criteria.Yaml
