import HubAutomation.Context
import HubAutomation.Time.Rfc3339

/-!
# States

A state is a snapshot of an entity as the hub reports it.

- `State`: the snapshot.
- `State.same`: equality, which looks at entity, value and attributes only.
- `State.ofJson`, `State.toJson`: its document.
- `State.attribute?`: an attribute read as a value of some kind.
-/

namespace HubAutomation

/-- An instant in a document is its RFC 3339 text. -/
def Json.asInstant : Json → ReadResult Instant
  | .string s =>
    match Instant.ofText? s with
    | some t => .ok t
    | none => .error .mismatch
  | _ => .error .mismatch

def Instant.toJson (t : Instant) : Json := .string t.text

/-- A snapshot of an entity. -/
structure State where
  entityId : EntityId
  /-- The value, such as `on` or `23.5`. -/
  value : String
  attributes : Dict Json
  lastChanged : Instant
  lastUpdated : Instant
  lastReported : Option Instant
  context : Context

namespace State

/-- A snapshot made now. -/
def fresh (stamp : Stamp) (entityId : EntityId) (value : String) (attributes : Dict Json)
    (context : Context) : State :=
  ⟨entityId, value, attributes, stamp.now, stamp.now, none, context⟩

/-- Add or overwrite an attribute. -/
def withAttribute (s : State) (name : String) (value : Json) : State :=
  { s with attributes := s.attributes.insert name value }

/-- The attribute `friendly_name` if it is a text, else the entity id. -/
def friendlyName (s : State) : String :=
  ((s.attributes.find? "friendly_name").bind Json.string?).getD s.entityId.text

def isUnavailable (s : State) : Bool := s.value == "unavailable"

def isUnknown (s : State) : Bool := s.value == "unknown"

/-- Two snapshots are equal if they show the same; when and why they were taken
does not count. -/
def same (a b : State) : Bool :=
  a.entityId == b.entityId && a.value == b.value && Json.sameMembers a.attributes b.attributes

/-! ### Documents -/

def fieldNames : List String :=
  ["entity_id", "state", "attributes", "last_changed", "last_updated", "last_reported", "context"]

/-- The state in a document. An object has its members sorted, so a fault in
the attributes or the context is met before one in the entity id; in an array
the entity id stands first. -/
def ofJson (stamp : Stamp) (j : Json) : ReadResult State := do
  let r ← Record.ofJson fieldNames j
  let attributes := r.optional "attributes" Json.asDict
  let context := r.optional "context" Context.ofJson
  if r.keyed then
    let _ ← attributes
    let _ ← context
  let entityId ← r.required "entity_id" Json.asEntityId
  let value ← r.required "state" Json.asString
  let attributes ← attributes
  let lastChanged ← r.required "last_changed" Json.asInstant
  let lastUpdated ← r.required "last_updated" Json.asInstant
  let lastReported ← r.nullable "last_reported" Json.asInstant
  let context ← context
  pure ⟨entityId, value, attributes.getD [], lastChanged, lastUpdated, lastReported,
    context.getD (Context.fresh stamp)⟩

/-- The time of the last report is left out where there is none. -/
def toJson (s : State) : Json :=
  .object ([("attributes", .object s.attributes), ("context", s.context.toJson),
      ("entity_id", .string s.entityId.text), ("last_changed", s.lastChanged.toJson)] ++
    (match s.lastReported with
      | some t => [("last_reported", t.toJson)]
      | none => []) ++
    [("last_updated", s.lastUpdated.toJson), ("state", .string s.value)])

/-! ### Attributes -/

/-- The kinds of values that an attribute can be read as. -/
inductive ValueKind where
  | u8
  | u64
  | i64
  | f64
  | bool
  | string
  | strings
  | value

/-- A double; integers are rounded to one. -/
def asFloat : Json → ReadResult Json
  | .number (.float x) => .ok (.number (.float x))
  | .number (.int n) =>
    match Binary64.ofNat? n.natAbs with
    | some x => .ok (.number (.float { x with negative := decide (n < 0) }))
    | none => .error .mismatch
  | _ => .error .mismatch

/-- Read a document as a value of a kind. -/
def readAs (kind : ValueKind) (j : Json) : ReadResult Json :=
  match kind with
  | .u8 => (j.asInt 0 255).map .int
  | .u64 => (j.asInt 0 (UInt64.size - 1)).map .int
  | .i64 => (j.asInt (-Nat.pow 2 63) (Nat.pow 2 63 - 1)).map .int
  | .f64 => asFloat j
  | .bool => j.asBool.map .bool
  | .string => j.asString.map .string
  | .strings => (j.asList Json.asString).map fun items => .array (items.map .string)
  | .value => .ok j

/-- An attribute read as a value of a kind; `none` if there is no such
attribute or it does not fit. -/
def attribute? (s : State) (name : String) (kind : ValueKind) : Option Json :=
  (s.attributes.find? name).bind fun j => (readAs kind j).toOption

end State

end HubAutomation
