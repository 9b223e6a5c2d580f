import Criteria.Error
import Criteria.Fields
import Criteria.Pattern.Meaning
import Criteria.Text.Search
/-!
# Clauses

A clause compares the field of a name with a comparand. `Clause.checked`
makes one only where the field is there and the operator suits the
comparand; a clause made directly need not satisfy either. A clause never
matches a value of another kind, nor an absent one.
-/

namespace Criteria

/-- What a field is compared with: a value, or a pattern for a text. -/
inductive Comparand
  | text (s : String)
  | number (n : Number)
  | flag (b : Bool)
  | moment (m : Moment)
  | pattern (p : TextPattern)

namespace Comparand

/-- The kind of value that a comparand meets. -/
def kind : Comparand → ValueKind
  | text _ | pattern _ => .text
  | number _ => .number
  | flag _ => .flag
  | moment _ => .moment

/-- The comparand with its kind. -/
def inspect : Comparand → String
  | text s => (Value.text s).inspect
  | number n => (Value.number n).inspect
  | flag b => (Value.flag b).inspect
  | moment m => (Value.moment m).inspect
  | pattern p => "Regex(Regex(" ++ Text.quoted p.source ++ "))"

/-- The comparand an operator takes: a text under `regex` becomes a
pattern, and everything else must suit the operator as it is. -/
def suited (op : Operator) : Comparand → Except Error Comparand
  | text s =>
      if op = .regex then
        if s.isEmpty then .error (.invalidArgument "pattern" "must not be empty")
        else match TextPattern.ofSource? s with
          | some p => .ok (pattern p)
          | none => .error .malformedPattern
      else accepted op (text s)
  | pattern p =>
      if op = .regex then .ok (pattern p) else .error mismatch
  | c => if op = .regex then .error mismatch else accepted op c
where
  /-- A pattern without `regex`, or `regex` without a pattern. -/
  mismatch : Error :=
    .invalidArgument "op" "regex values and the regex operator only go together"
  /-- A comparand whose kind the operator applies to. -/
  accepted (op : Operator) (c : Comparand) : Except Error Comparand :=
    if op.accepts c.kind then .ok c
    else .error (.invalidArgument "op"
      ("operator '" ++ op.symbol ++ "' does not apply to " ++ c.kind.name ++ " values"))

end Comparand

/-- A comparison of the field of a name. -/
structure Clause where
  field : String
  op : Operator
  comparand : Comparand

namespace Clause

/-- A clause over fields of the given names, with an operator that suits
the comparand. -/
def checked (names : List String) (field : String) (op : Operator) (comparand : Comparand) :
    Except Error Clause :=
  if names.contains field then (comparand.suited op).map fun c => ⟨field, op, c⟩
  else .error (.missing ("no accessor for field `" ++ field ++ "`"))

/-- What a text operator says of a field's text and the comparand. -/
def matchesText (op : Operator) (field comparand : String) : Bool :=
  match op with
  | .eq => field == comparand
  | .ne => field != comparand
  | .startsWith => comparand.toList.isPrefixOf field.toList
  | .endsWith => comparand.toList.isSuffixOf field.toList
  | .contains => Text.occursIn comparand.toList field.toList
  | _ => false

/-- What an operator says of two flags. -/
def matchesFlag (op : Operator) (field comparand : Bool) : Bool :=
  match op with
  | .eq => field == comparand
  | .ne => field != comparand
  | _ => false

/-- The clause holds of a field's value. -/
def isMatch (c : Clause) (value : Value) : Bool :=
  match c.comparand, value with
  | .text s, .text field => matchesText c.op field s
  | .pattern p, .text field => p.isMatch field
  | .number n, .number field => (field.compare? n).any c.op.decides
  | .moment m, .moment field => c.op.decides (compare field m)
  | .flag b, .flag field => matchesFlag c.op field b
  | _, _ => false

/-- The clause with its parts. -/
def inspect (c : Clause) : String :=
  "Clause \x7b field: " ++ Text.quoted c.field ++ ", op: " ++ c.op.name
    ++ ", value: " ++ c.comparand.inspect ++ " \x7d"

end Clause

end Criteria
