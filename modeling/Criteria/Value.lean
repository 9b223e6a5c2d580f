import Criteria.Operator
import Criteria.Number.Text
import Criteria.Calendar.Text
import Criteria.Text.Quoted
/-!
# Values of named fields

A field asked for by name answers with a `Value`: of one of the four kinds,
or absent. An absent value has no kind.
-/

namespace Criteria

/-- What a named field holds. -/
inductive Value
  | text (s : String)
  | number (n : Number)
  | flag (b : Bool)
  | moment (m : Moment)
  | absent
deriving Repr

namespace Value

/-- The kind of a value that is there. -/
def kind? : Value → Option ValueKind
  | text _ => some .text
  | number _ => some .number
  | flag _ => some .flag
  | moment _ => some .moment
  | absent => none

/-- The field holds nothing. -/
def isAbsent (v : Value) : Bool := v.kind?.isNone

/-- The text of a text. -/
def text? : Value → Option String
  | text s => some s
  | _ => none

/-- The value of a number that may be missing. -/
def ofNumber? (n : Option Number) : Value := n.elim absent number

/-- The value with its kind. -/
def inspect : Value → String
  | text s => "String(" ++ Text.quoted s ++ ")"
  | number n => "Number(" ++ n.inspect ++ ")"
  | flag b => "Bool(" ++ toString b ++ ")"
  | moment m => "DateTime(" ++ m.inspect ++ ")"
  | absent => "None"

end Value

end Criteria
