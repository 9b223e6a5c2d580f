/-!
# Why a call is refused

Every refusal is a value: the cause, with what its wording needs. A cause
is one constructor of `Error`, and `Error.message` holds all the wording.
The two causes whose wording depends on a foreign diagnosis, a malformed
pattern and a malformed configuration, carry no text.
-/

namespace Criteria

/-- What keeps a condition from telling two items apart, read off the
form it was built with. -/
inductive Degeneracy
  | alwaysTrue
  | alwaysFalse
  | alwaysNull
  | zeroLeftOperand
deriving DecidableEq, Repr

namespace Degeneracy

/-- The literal a degenerate condition collapses to. -/
def literal : Degeneracy → String
  | alwaysTrue => "true"
  | alwaysFalse => "false"
  | alwaysNull => "null"
  | zeroLeftOperand => "0"

/-- The literal between single quotes. -/
def text (d : Degeneracy) : String := "'" ++ d.literal ++ "'"

end Degeneracy

/-- A refused call, by cause. -/
inductive Error
  /-- The condition cannot tell two items apart. -/
  | degenerate (reason : Degeneracy)
  /-- Something the call needs is not there. -/
  | missing (what : String)
  /-- An argument makes no sense on its own or beside the others. -/
  | invalidArgument (name reason : String)
  /-- A count lies outside its permitted range. -/
  | outOfRange (name : String) (value : Int) (reason : String)
  /-- A pattern text that is not a pattern. -/
  | malformedPattern
  /-- A configuration text that is not a configuration. -/
  | malformedConfig
deriving DecidableEq, Repr

namespace Error

/-- The wording of a refusal, for the causes that have one. -/
def message : Error → Option String
  | degenerate d => some ("the condition provided has no effect because it is always " ++ d.text)
  | missing what => some ("missing required argument: " ++ what)
  | invalidArgument name reason => some ("invalid argument `" ++ name ++ "`: " ++ reason)
  | outOfRange name value reason =>
      some ("argument `" ++ name ++ "` is out of range (" ++ toString value ++ "): " ++ reason)
  | malformedPattern => none
  | malformedConfig => none

end Error

end Criteria
