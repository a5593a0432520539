import HubAutomation.Entity

/-!
# Errors of triggers

- `TriggerError`: what can go wrong when a trigger is built or meets an event.
-/

namespace HubAutomation

/-- What can go wrong when a trigger is built or meets an event. -/
inductive TriggerError where
  /-- A text that should name an entity does not. -/
  | entityId (text : String)
  | timeUnit (name : String)
  /-- A change of the entity both qualifies and cancels. -/
  | contradiction (entityId : EntityId)
deriving DecidableEq

namespace TriggerError

def message : TriggerError → String
  | .entityId text => "not a valid entity id: " ++ text
  | .timeUnit name => "unknown time unit: " ++ name
  | .contradiction id =>
    "logic error: event for " ++ id.text ++ " satisfies both call and cancel rules"

end TriggerError

end HubAutomation
