import Criteria.Config.Options
import Criteria.Json.Document
/-!
# Configurations as documents

A document is a configuration if it is an object of options, or an array of
their values in order, of which the last may be left out. A clock is written
by its name, or as an object with its name and nothing under it.
-/

namespace Criteria.Config

open Json

/-- The flag of a value. -/
def flagOfJson? : Document → Option Bool
  | .bool b => some b
  | _ => none

/-- The clock of a value. -/
def clockOfJson? : Document → Option Clock
  | .string s => Clock.ofName? s
  | .object [(s, .null)] => Clock.ofName? s
  | _ => none

/-- Values of options in a document. -/
def jsonSpelling : Spelling Document := ⟨flagOfJson?, clockOfJson?⟩

/-- The configuration that a document is. -/
def ofJson? : Document → Option Config
  | .object members => ofOptions? jsonSpelling members
  | .array values =>
      if values.length ≤ optionNames.length then
        ofOptions? jsonSpelling (optionNames.zip values)
      else none
  | _ => none

/-- Reads a configuration from the text of a document. -/
def readJson (text : String) : Except Error Config :=
  orRefuse ((Document.ofText? text).bind ofJson?)

end Criteria.Config
