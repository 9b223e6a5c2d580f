import Criteria.Fields
/-!
# Records

Items whose fields are known only by name. Each field holds an entry; a
reader of one kind meets another kind, or a field that is not there, with a
neutral value of its own.
-/

namespace Criteria

/-- An element of a list. Elements of different kinds differ. -/
inductive Element
  | integer (n : Int64)
  | text (s : String)
  | flag (b : Bool)
deriving DecidableEq, Repr

namespace Element

/-- An integer above a bound. -/
def isAbove (bound : Int64) : Element → Bool
  | integer n => bound < n
  | _ => false

end Element

/-- What a field of a record holds. -/
inductive Entry
  | value (v : Value)
  | list (elements : List Element)
deriving Repr

/-- An item with fields by name. -/
structure Record where
  id : Nat
  fields : List (String × Entry)
deriving Repr

namespace Record

/-- What a field holds as a value: nothing, if it is a list. -/
def value (item : Record) (field : String) : Value :=
  match item.fields.lookup field with
  | some (.value v) => v
  | _ => .absent

/-- The text of a field, if it holds one. -/
def text? (item : Record) (field : String) : Option String := (item.value field).text?

/-- The text of a field, or the empty one. -/
def text (item : Record) (field : String) : String := (item.text? field).getD ""

/-- The flag of a field, or `false`. -/
def flag (item : Record) (field : String) : Bool :=
  match item.value field with
  | .flag b => b
  | _ => false

/-- The number of a field, or zero. -/
def number (item : Record) (field : String) : Number :=
  match item.value field with
  | .number n => n
  | _ => .signed 0

/-- The moment of a field, or the epoch. -/
def moment (item : Record) (field : String) : Moment :=
  match item.value field with
  | .moment m => m
  | _ => .epoch

/-- The elements of a field, or none. -/
def elements (item : Record) (field : String) : List Element :=
  match item.fields.lookup field with
  | some (.list elements) => elements
  | _ => []

/-- How many characters the text of a field has. -/
def textLength (item : Record) (field : String) : Number :=
  .unsigned (UInt64.ofNat (item.text field).length)

/-- The fields that a clause can name. -/
def clauseFields : List String := ["s", "t", "n", "m", "b", "d", "e", "o", "l"]

instance : Fields Record := ⟨clauseFields, value⟩

end Record

end Criteria
