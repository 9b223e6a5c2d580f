import Criteria.Config.Options
import Criteria.Yaml.Settings
/-!
# Configurations as settings

The entries of a flat document, as options. A flag is one of three spellings
of its word without quotes, or in a literal block that is tagged as one. A
clock is written by its name, or as a tag of that name with nothing after
it.
-/

namespace Criteria.Config

open Yaml

/-- The tag of flags. -/
def flagTag : String := "tag:yaml.org,2002:bool"

/-- The flag of a word. -/
def flagOfWord? (word : String) : Option Bool :=
  if ["true", "True", "TRUE"].contains word then some true
  else if ["false", "False", "FALSE"].contains word then some false
  else none

/-- The flag of a scalar. -/
def flagOfYaml? (s : Scalar) : Option Bool :=
  match s.style with
  | .plain => flagOfWord? s.text
  | .literal => if s.tag = some flagTag then flagOfWord? s.text else none
  | _ => none

/-- The scalar stands for nothing. -/
def isNothing (s : Scalar) : Bool :=
  s.style == .plain && ["", "~", "null", "Null", "NULL"].contains s.text

/-- The clock of a scalar. -/
def clockOfYaml? (s : Scalar) : Option Clock :=
  match s.tag.map (·.toList) with
  | some ('!' :: name) => if isNothing s then Clock.ofName? (String.ofList name) else none
  | _ => Clock.ofName? s.text

/-- Values of options in settings. -/
def yamlSpelling : Spelling Scalar := ⟨flagOfYaml?, clockOfYaml?⟩

/-- The configuration of settings. -/
def ofSettings? (entries : Settings) : Option Config :=
  ofOptions? yamlSpelling (entries.map fun (key, value) => (key.text, value))

/-- Reads a configuration from the text of settings. -/
def readYaml (text : String) : Except Error Config :=
  orRefuse ((Settings.ofText? text).bind ofSettings?)

end Criteria.Config
