import Criteria.Condition
import Criteria.Config.Basic
import Criteria.Format.Base64
import Criteria.Format.Email
import Criteria.Format.Json
import Criteria.Pattern.Meaning
import Criteria.Text.Search
/-!
# Tests of texts

Lengths count characters. Letters are those of Unicode; digits are ASCII
where a text must have them. The empty text passes few tests: it stands in
for a missing one.
-/

namespace Criteria

namespace Text

/-- A letter, or a number of any script. -/
def isAlphanumeric (c : Char) : Bool := Unicode.isAlphabetic c || Unicode.isNumeric c

end Text

/-- A test of a text. -/
inductive TextTest
  | minLength (n : Nat)
  | maxLength (n : Nat)
  | exactLength (n : Nat)
  /-- Fits a pattern somewhere. -/
  | pattern (source : String)
  | startsWith (s : String)
  | endsWith (s : String)
  | contains (s : String)
  | equalsIgnoringCase (s : String)
  | empty
  | nonempty
  | email
  /-- No white space at either end. -/
  | trimmed
  | onlyDigits
  | onlyLetters
  /-- A letter and a digit at least. -/
  | lettersAndDigits
  /-- A character that is neither a letter nor a number. -/
  | specialCharacters
  | json
  | notJson
  | base64
  | notBase64
deriving DecidableEq, Repr

namespace TextTest

/-- What a test checks. A pattern must be one. -/
def check (config : Config) : TextTest → Except Error (String → Bool)
  | minLength n => .ok fun s => !s.isEmpty && n ≤ s.length
  | maxLength n => .ok fun s => !s.isEmpty && s.length ≤ n
  | exactLength n => .ok fun s => s.length == n
  | pattern source =>
      if source.isEmpty then .error (.invalidArgument "pattern" "must not be empty")
      else match TextPattern.ofSource? source with
        | some p => .ok fun s => !s.isEmpty && p.isMatch s
        | none => .error .malformedPattern
  | startsWith t => .ok fun s => t.toList.isPrefixOf s.toList
  | endsWith t => .ok fun s => t.toList.isSuffixOf s.toList
  | contains t => .ok fun s => Text.occursUnder config.ignoreCase t.toList s.toList
  | equalsIgnoringCase t => .ok fun s => Text.lower s.toList == Text.lower t.toList
  | empty => .ok fun s => s.isEmpty
  | nonempty => .ok fun s => !s.isEmpty
  | email => .ok Format.isEmail
  | trimmed => .ok fun s => s.toList == Text.trim s.toList
  | onlyDigits => .ok fun s => !s.isEmpty && s.toList.all Char.isDigit
  | onlyLetters => .ok fun s => !s.isEmpty && s.toList.all Unicode.isAlphabetic
  | lettersAndDigits =>
      .ok fun s => s.toList.any Unicode.isAlphabetic && s.toList.any Char.isDigit
  | specialCharacters => .ok fun s => s.toList.any (!Text.isAlphanumeric ·)
  | json => .ok Format.isJson
  | notJson => .ok fun s => !Format.isJson s
  | base64 => .ok Format.isBase64
  | notBase64 => .ok fun s => !s.isEmpty && !Format.isBase64 s

/-- The test as a condition of texts. -/
def condition (config : Config) (t : TextTest) : Except Error (Condition String) :=
  (t.check config).map Condition.ofTest

end TextTest

end Criteria
