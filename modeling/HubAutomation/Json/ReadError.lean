import HubAutomation.Entity

/-!
# Faults of documents

- `ReadError`: why a text or a document is not what was expected of it.
-/

namespace HubAutomation

/-- Why a document could not be read. -/
inductive ReadError where
  /-- The text is not JSON. -/
  | malformed
  /-- The document has another shape than the value asks for. -/
  | mismatch
  /-- A text in the document is no entity id. -/
  | entityId (cause : EntityIdError)
  /-- The event has another type than the payload asks for. -/
  | eventType (expected actual : String)
deriving DecidableEq

namespace ReadError

/-- Whether the text or the shape of the document is at fault. -/
def category : ReadError → String
  | .malformed => "json"
  | .mismatch | .entityId _ | .eventType _ _ => "data"

/-- The explanation, where there is more to say than the category. -/
def message? : ReadError → Option String
  | .malformed | .mismatch => none
  | .entityId cause => some cause.message
  | .eventType expected actual => some ("expected " ++ expected ++ " event, got " ++ actual)

end ReadError

/-- What comes of reading a document. -/
abbrev ReadResult (α : Type) := Except ReadError α

end HubAutomation
