import HubAutomation.State

/-!
# State changes

The payload of a `state_changed` event: the entity, its state before, which is
missing at the first observation, and its state after, which is missing when
the entity was removed.

- `StateChange`: the payload.
- `StateChange.isConsistent`: whether both sides are about the entity.
-/

namespace HubAutomation

/-- A change of the state of an entity. -/
structure StateChange where
  entityId : EntityId
  old : Option State
  new : Option State

namespace StateChange

/-- Equality of optional snapshots. -/
def sameSide : Option State → Option State → Bool
  | none, none => true
  | some a, some b => a.same b
  | _, _ => false

def same (a b : StateChange) : Bool :=
  a.entityId == b.entityId && sameSide a.old b.old && sameSide a.new b.new

/-- Whether the entity is seen for the first time. -/
def isFirstObservation (c : StateChange) : Bool := c.old.isNone && c.new.isSome

/-- Whether the entity was removed. -/
def isRemoval (c : StateChange) : Bool := c.new.isNone

/-- Whether the snapshots that are there belong to the entity. -/
def isConsistent (c : StateChange) : Bool :=
  (c.old.all fun s => s.entityId == c.entityId) && c.new.all fun s => s.entityId == c.entityId

def fieldNames : List String := ["entity_id", "old_state", "new_state"]

/-- The change in a document. In an object the new side is met before the old
one, and a missing entity id is noticed last. -/
def ofJson (stamp : Stamp) (j : Json) : ReadResult StateChange := do
  let r ← Record.ofJson fieldNames j
  let old := r.nullable "old_state" (State.ofJson (stamp.fork 0))
  let new := r.nullable "new_state" (State.ofJson (stamp.fork 1))
  let entityId ← r.optional "entity_id" Json.asEntityId
  if r.keyed then
    let _ ← new
  let old ← old
  let new ← new
  match entityId with
  | some entityId => pure ⟨entityId, old, new⟩
  | none => .error .mismatch

def toJson (c : StateChange) : Json :=
  .object [("entity_id", .string c.entityId.text), ("new_state", .ofOption State.toJson c.new),
    ("old_state", .ofOption State.toJson c.old)]

end StateChange

end HubAutomation
