import Criteria.Json.Document
import Criteria.Text.Blank
/-!
# Documents as a format
-/

namespace Criteria.Format

/-- The text is a document; a blank one is not. -/
def isJson (s : String) : Bool :=
  !Text.isBlank s.toList && (Json.Document.ofText? s).isSome

end Criteria.Format
