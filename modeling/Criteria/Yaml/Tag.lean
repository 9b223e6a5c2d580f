import Criteria.Text.Hexadecimal
import Criteria.Yaml.Cursor
/-!
# Anchors, tags and directives

The names of a document. An anchor names a node; a tag names a node's type,
by a handle that stands for a prefix and a suffix; directives at the head of
a document fix the version of the language and the prefixes of handles.
-/

namespace Criteria.Yaml

/-- A character of a name. -/
def isNameChar (c : Char) : Bool := c.isAlphanum || c = '-' || c = '_'

/-- Reads the name of an anchor or alias, from after its sign. What follows
must be a space or one of a few signs. -/
def readAnchor (c : Cursor) : Option (String × Cursor) :=
  let (name, c) := c.span isNameChar
  if name.isEmpty then none
  else if atSpace c.rest || c.rest.head?.any (['?', ':', ',', ']', '\x7d', '%', '@', '\x60'].contains ·) then
    some (String.ofList name, c)
  else none

/-! ## Tags -/

/-- A tag as written: a handle, or none for a tag in full, and the rest. -/
structure WrittenTag where
  handle : String
  suffix : String
deriving DecidableEq, Repr

/-- A character of an address; a full one may have brackets and commas. -/
def isAddressChar (full : Bool) (c : Char) : Bool :=
  isNameChar c || ";/?:@&=+$.%!~*\x27()".toList.contains c || (full && [',', '[', ']'].contains c)

/-- The bytes of an address, with a percent sign before the number of a
byte. -/
def addressBytes? : List Char → Option (List UInt8)
  | [] => some []
  | '%' :: a :: b :: rest => do
      let n ← Text.hexNumber? [a, b]
      return UInt8.ofNat n :: (← addressBytes? rest)
  | c :: rest =>
      if c = '%' then none else (addressBytes? rest).map (UInt8.ofNat c.toNat :: ·)

/-- The text of an address. -/
def addressText? (address : List Char) : Option String := do
  String.fromUTF8? ⟨(← addressBytes? address).toArray⟩

/-- Reads an address. -/
def readAddress (full : Bool) (c : Cursor) : Option (String × Cursor) := do
  let (address, c) := c.span (isAddressChar full)
  return (← addressText? address, c)

/-- Reads a tag from after its sign, in a flow mapping or not. A handle is
two signs with a name between; without one the sign itself is the handle,
and a sign alone stands for itself. -/
def readTag (flow : Bool) (c : Cursor) : Option (WrittenTag × Cursor) := do
  let (tag, c) ←
    if c.rest.head? = some '<' then
      let (suffix, c) ← readAddress true c.next
      if suffix.isEmpty || c.rest.head? != some '>' then none
      else some (WrittenTag.mk "" suffix, c.next)
    else
      let (name, after) := c.span isNameChar
      if after.rest.head? = some '!' then
        let (suffix, c) ← readAddress false after.next
        if suffix.isEmpty then none
        else some (WrittenTag.mk ("!" ++ String.ofList name ++ "!") suffix, c)
      else
        let (suffix, c) ← readAddress false c
        some (if suffix.isEmpty then WrittenTag.mk "" "!" else WrittenTag.mk "!" suffix, c)
  if atSpace c.rest || (flow && c.rest.head? = some ',') then return (tag, c) else none

/-- The prefixes of handles. -/
abbrev TagPrefixes := List (String × String)

/-- The prefixes that need no directive. -/
def standardPrefixes : TagPrefixes := [("!", "!"), ("!!", "tag:yaml.org,2002:")]

/-- The tag in full, if its handle has a prefix. -/
def WrittenTag.resolve? (t : WrittenTag) (prefixes : TagPrefixes) : Option String :=
  if t.handle.isEmpty then some t.suffix
  else (prefixes.lookup t.handle).map (· ++ t.suffix)

/-! ## Directives -/

/-- A directive. -/
inductive Directive
  | version (major minor : Nat)
  | tag (handle address : String)
deriving DecidableEq, Repr

/-- Reads a number of at most nine digits. -/
def readVersionPart (c : Cursor) : Option (Nat × Cursor) :=
  let (digits, c) := c.span Char.isDigit
  if digits.isEmpty || 9 < digits.length then none
  else some (digits.foldl (fun n d => n * 10 + (d.toNat - 48)) 0, c)

/-- Reads the handle of a directive: a sign alone, or two with a name
between. -/
def readHandle (c : Cursor) : Option (String × Cursor) :=
  if c.rest.head? != some '!' then none
  else
    let (name, c) := c.next.span isNameChar
    if c.rest.head? = some '!' then some ("!" ++ String.ofList name ++ "!", c.next)
    else if name.isEmpty then some ("!", c)
    else none

/-- Reads a directive from after its sign, to the end of its line. -/
def readDirective (c : Cursor) : Option (Directive × Cursor) := do
  let (name, c) := c.span isNameChar
  if name = "YAML".toList then
    let (major, c) ← readVersionPart c.skipBlanks
    if c.rest.head? != some '.' then none
    let (minor, c) ← readVersionPart c.next
    return (.version major minor, ← c.endLine?)
  else if name = "TAG".toList then
    let (handle, c) ← readHandle c.skipBlanks
    if !c.rest.head?.any isBlank then none
    let (address, c) ← readAddress true c.skipBlanks
    if address.isEmpty || !atSpace c.rest then none
    return (.tag handle address, ← c.endLine?)
  else none

end Criteria.Yaml
