import Criteria.Calendar.Clock
/-!
# Configurations

What a filter is configured with: whether it refuses degenerate conditions,
whether its searches of text look past case, and which clock its dates ask.
Every group of a filter inherits the filter's configuration.
-/

namespace Criteria

/-- The clock's name in a configuration. -/
def Clock.name : Clock → String
  | wall => "local"
  | utc => "utc"

/-- The clock of a name. -/
def Clock.ofName? (s : String) : Option Clock := [wall, utc].find? (·.name == s)

/-- The clock inspected. -/
def Clock.inspect : Clock → String
  | wall => "Local"
  | utc => "Utc"

/-- The options of a filter, each with its default. -/
structure Config where
  rejectDegenerate : Bool := true
  ignoreCase : Bool := true
  clock : Clock := .wall
deriving DecidableEq, Repr

namespace Config

/-- All defaults. -/
def standard : Config := {}

/-- The configuration inspected. -/
def inspect (c : Config) : String :=
  "SieveConfig \x7b reject_degenerate: " ++ toString c.rejectDegenerate
    ++ ", ignore_case: " ++ toString c.ignoreCase ++ ", clock: " ++ c.clock.inspect ++ " \x7d"

/-- The configuration as a document of one line, every option in order. -/
def text (c : Config) : String :=
  "\x7b\"reject_degenerate\":" ++ toString c.rejectDegenerate
    ++ ",\"ignore_case\":" ++ toString c.ignoreCase
    ++ ",\"clock\":\"" ++ c.clock.name ++ "\"\x7d"

end Config

end Criteria
