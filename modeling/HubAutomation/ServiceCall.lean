import HubAutomation.Json.Record

/-!
# Service calls

A request to run a service of a domain with some data. The shorthand
`light.kitchen.turn_on` names the entity and the service at once.

- `ServiceCall`: the request.
- `ServiceCall.ofShorthand`: the request of a shorthand.
-/

namespace HubAutomation

/-- A request to run a service. -/
structure ServiceCall where
  domain : String
  service : String
  data : Json

/-- A text that is no shorthand of a service call. -/
structure ShorthandError where
  shorthand : String
deriving DecidableEq

namespace ShorthandError

def message (e : ShorthandError) : String :=
  "service call '" ++ e.shorthand ++ "' must look like 'domain.object_id.service'"

end ShorthandError

namespace ServiceCall

/-- The parts of a text before and after its last point. -/
def splitLast? (cs : List Char) : Option (List Char × List Char) :=
  match cs.reverse.dropWhile (· ≠ '.') with
  | [] => none
  | _ :: before => some (before.reverse, (cs.reverse.takeWhile (· ≠ '.')).reverse)

/-- The data of a call on an entity: the entity id, and the members of the given
object, which win. -/
def addressed (entityId : EntityId) (data : Json) : Dict Json :=
  Dict.extend [("entity_id", .string entityId.text)]
    (match data with
      | .object members => members
      | _ => [])

/-- The call of a shorthand: an entity id, a point and the name of a service of
the entity's domain. -/
def ofShorthand (shorthand : String) (data : Json) : Except ShorthandError ServiceCall :=
  match splitLast? shorthand.toList with
  | none => .error ⟨shorthand⟩
  | some (entity, service) =>
    match EntityId.parseChars entity with
    | .error _ => .error ⟨shorthand⟩
    | .ok entityId =>
      if service.isEmpty then .error ⟨shorthand⟩
      else .ok ⟨entityId.domain, String.ofList service, .object (addressed entityId data)⟩

def fieldNames : List String := ["domain", "service", "service_data"]

/-- The call in a record; its data are `null` if they are absent. -/
def ofRecord (r : Record) : ReadResult ServiceCall := do
  let domain ← r.required "domain" Json.asString
  let service ← r.required "service" Json.asString
  let data ← r.optional "service_data" Json.asValue
  pure ⟨domain, service, data.getD .null⟩

def ofJson (j : Json) : ReadResult ServiceCall := do ofRecord (← Record.ofJson fieldNames j)

def toJson (c : ServiceCall) : Json :=
  .object [("domain", .string c.domain), ("service", .string c.service), ("service_data", c.data)]

end ServiceCall

end HubAutomation
