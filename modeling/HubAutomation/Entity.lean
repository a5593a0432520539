/-!
# Entity ids

An entity id is a domain and an object id joined by one point, such as
`light.kitchen`. Both are words over lower-case ASCII letters, digits and
underscores that neither start nor end with an underscore; a domain has no two
underscores in a row.

- `EntityId`: a valid id.
- `EntityId.make`: the id of two words, or what is wrong with them.
- `EntityId.parse`: the id of a text.
-/

namespace HubAutomation

/-- Why a text is no entity id. -/
inductive EntityIdError where
  | format
  | emptyDomain
  | emptyObjectId
  | domainChars
  | objectIdChars
deriving DecidableEq

namespace EntityIdError

def reason : EntityIdError → String
  | .format => "expected exactly one '.' between domain and object_id"
  | .emptyDomain => "domain is empty"
  | .emptyObjectId => "object_id is empty"
  | .domainChars => "domain must be lowercase alphanumeric/underscore without leading, trailing or doubled underscores"
  | .objectIdChars => "object_id must be lowercase alphanumeric/underscore without leading or trailing underscores"

def message (e : EntityIdError) : String := "not a valid entity id: " ++ e.reason

end EntityIdError

namespace EntityId

/-- Lower-case ASCII letters, digits and the underscore. -/
def isWordChar (c : Char) : Bool := c.isLower || c.isDigit || c == '_'

/-- Whether two underscores stand side by side. -/
def hasDoubledUnderscore : List Char → Bool
  | '_' :: '_' :: _ => true
  | _ :: rest => hasDoubledUnderscore rest
  | [] => false

/-- Word characters only, and no underscore at either end. -/
def isSlug (cs : List Char) : Bool :=
  cs.head? != some '_' && cs.getLast? != some '_' && cs.all isWordChar

/-- Whether a text may be a domain. -/
def isDomain (s : String) : Bool :=
  !s.toList.isEmpty && !hasDoubledUnderscore s.toList && isSlug s.toList

/-- Whether a text may be an object id. -/
def isObjectId (s : String) : Bool := !s.toList.isEmpty && isSlug s.toList

end EntityId

/-- A valid entity id. -/
structure EntityId where
  domain : String
  objectId : String
  domain_ok : EntityId.isDomain domain = true
  objectId_ok : EntityId.isObjectId objectId = true
deriving DecidableEq

namespace EntityId

/-- The id of a domain and an object id. An empty word is reported before a
wrong character. -/
def make (domain objectId : String) : Except EntityIdError EntityId :=
  if domain.toList.isEmpty then .error .emptyDomain
  else if objectId.toList.isEmpty then .error .emptyObjectId
  else if hd : isDomain domain = true then
    if ho : isObjectId objectId = true then .ok ⟨domain, objectId, hd, ho⟩
    else .error .objectIdChars
  else .error .domainChars

/-- The id of a text; it must have exactly one point. -/
def parseChars (cs : List Char) : Except EntityIdError EntityId :=
  match cs.dropWhile (· ≠ '.') with
  | [] => .error .format
  | _ :: rest =>
    if rest.contains '.' then .error .format
    else make (String.ofList (cs.takeWhile (· ≠ '.'))) (String.ofList rest)

/-- The id of a text; it must have exactly one point. -/
def parse (s : String) : Except EntityIdError EntityId := parseChars s.toList

/-- Whether a text is an entity id. -/
def isValid (s : String) : Bool := (parse s).isOk

/-- The text of an id. -/
def text (id : EntityId) : String := id.domain ++ "." ++ id.objectId

/-- Ids are ordered by domain and then by object id. -/
def le (a b : EntityId) : Bool :=
  a.domain < b.domain || (a.domain == b.domain && !(b.objectId < a.objectId))

/-- Drop ids that are equal to the one before. -/
def dropRepeats : List EntityId → List EntityId
  | a :: b :: rest => if a = b then dropRepeats (b :: rest) else a :: dropRepeats (b :: rest)
  | ids => ids

/-- The ids in order, each once. -/
def sortUnique (ids : List EntityId) : List EntityId := dropRepeats (ids.mergeSort le)

end EntityId

end HubAutomation
