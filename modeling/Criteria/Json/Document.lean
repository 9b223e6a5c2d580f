import Criteria.Json.Token
/-!
# Documents

A document is one value: a scalar, an array or an object. `Document.ofText?`
reads one, token by token, with a stack of the arrays and objects that are
open, of which there may be 127. An object keeps all its members, in order
and with repeated names.
-/

namespace Criteria.Json

/-- A value of a document. -/
inductive Document
  | null
  | bool (b : Bool)
  | number (n : Numeral)
  | string (s : String)
  | array (items : List Document)
  | object (members : List (String × Document))

namespace Document

/-- An array or object being read, with its parts so far in reverse; an
object also with the name that waits for its value. -/
inductive Frame
  | array (items : List Document)
  | object (members : List (String × Document)) (name : String)

/-- What may come next. -/
inductive Expected
  | value
  /-- A value, or the end of an array that has just begun. -/
  | valueOrEnd
  /-- A member's name. -/
  | name
  | nameOrEnd
  | colon
  /-- A comma or the end of what is open. -/
  | more
  /-- Nothing: the document is complete. -/
  | nothing
deriving DecidableEq, Repr

/-- A document being read. -/
structure Reading where
  stack : List Frame
  expected : Expected
  done : Option Document

/-- How many arrays and objects can be open. -/
def depthLimit : Nat := 127

namespace Reading

/-- Nothing read yet. -/
def start : Reading := ⟨[], .value, none⟩

/-- Takes a complete value. -/
def take (r : Reading) (v : Document) : Reading :=
  match r.stack with
  | [] => ⟨[], .nothing, some v⟩
  | .array items :: stack => ⟨.array (v :: items) :: stack, .more, none⟩
  | .object members name :: stack => ⟨.object ((name, v) :: members) "" :: stack, .more, none⟩

/-- Opens an array or object. -/
def open? (r : Reading) (frame : Frame) (expected : Expected) : Option Reading :=
  if r.stack.length < depthLimit then some ⟨frame :: r.stack, expected, none⟩ else none

/-- Takes a token that begins a value. -/
def beginValue? (r : Reading) : Token → Option Reading
  | .null => some (r.take .null)
  | .bool b => some (r.take (.bool b))
  | .number n => some (r.take (.number n))
  | .string s => some (r.take (.string s))
  | .openArray => r.open? (.array []) .valueOrEnd
  | .openObject => r.open? (.object [] "") .nameOrEnd
  | _ => none

/-- Closes what is open, if the token is its end. -/
def close? (r : Reading) (t : Token) : Option Reading :=
  match r.stack, t with
  | .array items :: stack, .closeArray =>
      some ({ r with stack := stack }.take (.array items.reverse))
  | .object members _ :: stack, .closeObject =>
      some ({ r with stack := stack }.take (.object members.reverse))
  | _, _ => none

/-- Takes a member's name. -/
def takeName? (r : Reading) (t : Token) : Option Reading :=
  match r.stack, t with
  | .object members _ :: stack, .string name =>
      some { r with stack := .object members name :: stack, expected := .colon }
  | _, _ => none

/-- Takes the next token. -/
def step? (r : Reading) (t : Token) : Option Reading :=
  match r.expected, t with
  | .value, t => r.beginValue? t
  | .valueOrEnd, .closeArray => r.close? .closeArray
  | .valueOrEnd, t => r.beginValue? t
  | .nameOrEnd, .closeObject => r.close? .closeObject
  | .nameOrEnd, t => r.takeName? t
  | .name, t => r.takeName? t
  | .colon, .colon => some { r with expected := .value }
  | .colon, _ => none
  | .more, .comma =>
      match r.stack with
      | .array _ :: _ => some { r with expected := .value }
      | .object _ _ :: _ => some { r with expected := .name }
      | [] => none
  | .more, t => r.close? t
  | .nothing, _ => none

end Reading

/-- The document of a row of tokens. -/
def ofTokens? (tokens : List Token) : Option Document :=
  (tokens.foldlM Reading.step? Reading.start).bind Reading.done

/-- The document written in a text. -/
def ofText? (text : String) : Option Document := (Token.ofText? text).bind ofTokens?

end Document

end Criteria.Json
