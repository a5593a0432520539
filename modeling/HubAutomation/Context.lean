import HubAutomation.Json.Record
import HubAutomation.Stamp

/-!
# Contexts

The hub attaches a context to every state and every event: an id, the user who
caused the change, if a person did, and the context that led to this one.

- `Context`: the context of a change.
- `Context.fresh`: a new one.
- `Context.ofJson`, `Context.toJson`: its document.
-/

namespace HubAutomation

/-- What a change belongs to. -/
structure Context where
  id : String
  userId : Option String
  parentId : Option String
deriving DecidableEq

namespace Context

/-- A context with nothing but an id. -/
def withId (id : String) : Context := ⟨id, none, none⟩

/-- A new context. -/
def fresh (stamp : Stamp) : Context := withId stamp.id

/-- Whether a person caused the change. -/
def isUserInitiated (c : Context) : Bool := c.userId.isSome

def fieldNames : List String := ["id", "user_id", "parent_id"]

def ofJson (j : Json) : ReadResult Context := do
  let r ← Record.ofJson fieldNames j
  let id ← r.required "id" Json.asString
  let userId ← r.nullable "user_id" Json.asString
  let parentId ← r.nullable "parent_id" Json.asString
  pure ⟨id, userId, parentId⟩

/-- The parent is left out where there is none, the user is `null`. -/
def toJson (c : Context) : Json :=
  .object ([("id", .string c.id)] ++
    (match c.parentId with
      | some p => [("parent_id", .string p)]
      | none => []) ++
    [("user_id", .ofOption .string c.userId)])

end Context

end HubAutomation
