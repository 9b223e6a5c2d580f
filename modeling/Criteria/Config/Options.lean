import Criteria.Config.Basic
import Criteria.Error
/-!
# Options by name

A configuration written down is a row of options by name. No name may be
unknown or come twice, and an option that is not there has its default. How
the value of an option is written is a matter of the format.
-/

namespace Criteria.Config

/-- How a format writes the values of options. -/
structure Spelling (ν : Type) where
  flag? : ν → Option Bool
  clock? : ν → Option Clock

/-- The configuration with the option of a name set. -/
def set? {ν : Type} (spelling : Spelling ν) (c : Config) (name : String) (value : ν) :
    Option Config :=
  match name with
  | "reject_degenerate" => (spelling.flag? value).map ({ c with rejectDegenerate := · })
  | "ignore_case" => (spelling.flag? value).map ({ c with ignoreCase := · })
  | "clock" => (spelling.clock? value).map ({ c with clock := · })
  | _ => none

/-- The options in order. -/
def optionNames : List String := ["reject_degenerate", "ignore_case", "clock"]

/-- The configuration of a row of options. -/
def ofOptions? {ν : Type} (spelling : Spelling ν) (options : List (String × ν)) : Option Config :=
  if (options.map (·.1)).Nodup then
    options.foldlM (fun c (name, value) => c.set? spelling name value) standard
  else none

/-- The outcome of reading a configuration. -/
def orRefuse (c : Option Config) : Except Error Config :=
  match c with
  | some c => .ok c
  | none => .error .malformedConfig

end Criteria.Config
