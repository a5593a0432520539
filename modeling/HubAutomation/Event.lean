import HubAutomation.ServiceCall
import HubAutomation.StateChange

/-!
# Events

An event of the hub's bus: a type, a payload, where and when it was fired, and
its context. Payloads are documents until they are read as what the event type
promises.

- `Event α`: an event with a payload of type `α`.
- `Payload`: payloads that know their event type.
- `Event.typed`: an event with its payload read.
- `Event.ofJson`, `Event.ofJsonWith`: the event in a document, without and with
  its payload read.
- `Event.ofBuffered`: the event in a document that was read before its type was
  known.
-/

namespace HubAutomation

/-- The type that listens to every event. -/
def matchAll : String := "*"

def stateChanged : String := "state_changed"

def callService : String := "call_service"

/-- Where an event was fired. -/
inductive Origin where
  | local
  | remote
deriving DecidableEq

namespace Origin

def text : Origin → String
  | .local => "LOCAL"
  | .remote => "REMOTE"

/-- The origin of its name, in upper or lower case. -/
def ofName : String → ReadResult Origin
  | "LOCAL" | "local" => .ok .local
  | "REMOTE" | "remote" => .ok .remote
  | _ => .error .mismatch

/-- The name as a text, or as the key of an object with nothing under it. -/
def ofJson : Json → ReadResult Origin
  | .string s => ofName s
  | .object [(name, .null)] => ofName name
  | _ => .error .mismatch

/-- The origin in a document that was read before its type was known: there an
empty object is nothing as well. -/
def ofBuffered : Json → ReadResult Origin
  | .object [(name, .object [])] => ofName name
  | j => ofJson j

end Origin

/-- An event of the hub's bus. -/
structure Event (α : Type) where
  type : String
  data : α
  origin : Origin
  timeFired : Instant
  context : Context

/-- A payload that only events of one type carry. -/
class Payload (α : Type) where
  eventType : String
  ofJson : Stamp → Json → ReadResult α
  toJson : α → Json

instance : Payload StateChange := ⟨stateChanged, StateChange.ofJson, StateChange.toJson⟩

instance : Payload ServiceCall := ⟨callService, fun _ => ServiceCall.ofJson, ServiceCall.toJson⟩

namespace Event

variable {α β : Type}

/-- An event fired here and now. -/
def fresh (stamp : Stamp) (type : String) (data : α) (context : Context) : Event α :=
  ⟨type, data, .local, stamp.now, context⟩

/-- An event fired here and now whose payload says its type. -/
def freshTyped [Payload α] (stamp : Stamp) (data : α) (context : Context) : Event α :=
  fresh stamp (Payload.eventType α) data context

def withOrigin (e : Event α) (origin : Origin) : Event α := { e with origin }

/-- Change the payload and keep the rest. -/
def map (f : α → β) (e : Event α) : Event β := { e with data := f e.data }

/-- Read the payload of an event of the right type. -/
def typed [Payload α] (stamp : Stamp) (e : Event Json) : ReadResult (Event α) := do
  if e.type ≠ Payload.eventType α then .error (.eventType (Payload.eventType α) e.type)
  else
    let data ← Payload.ofJson stamp e.data
    pure { e with data }

/-- Forget what the payload is. -/
def untyped [Payload α] (e : Event α) : Event Json := e.map Payload.toJson

/-! ### Documents -/

def fieldNames : List String := ["event_type", "data", "origin", "time_fired", "context"]

/-- The event in a document, by a reading of origins. It was fired locally, now and
in a new context unless the document says otherwise. -/
def ofDocument (readOrigin : Json → ReadResult Origin) (stamp : Stamp) (j : Json) :
    ReadResult (Event Json) := do
  let r ← Record.ofJson fieldNames j
  let type ← r.required "event_type" Json.asString
  let data ← r.required "data" Json.asValue
  let origin ← r.optional "origin" readOrigin
  let timeFired ← r.optional "time_fired" Json.asInstant
  let context ← r.optional "context" Context.ofJson
  pure ⟨type, data, origin.getD .local, timeFired.getD stamp.now,
    context.getD (Context.fresh stamp)⟩

/-- The event in a document. -/
def ofJson (stamp : Stamp) (j : Json) : ReadResult (Event Json) :=
  ofDocument Origin.ofJson stamp j

/-- The event in a document that was read before its type was known. -/
def ofBuffered (stamp : Stamp) (j : Json) : ReadResult (Event Json) :=
  ofDocument Origin.ofBuffered stamp j

/-- The event in a document, its payload read with it. An object has its members
sorted, so a fault in the context or the payload is met before one in the rest;
in an array the type stands first. -/
def ofJsonWith (read : Json → ReadResult α) (stamp : Stamp) (j : Json) : ReadResult (Event α) := do
  let r ← Record.ofJson fieldNames j
  let context := r.optional "context" Context.ofJson
  let data := r.required "data" read
  if r.keyed then
    let _ ← context
    let _ ← data
  let type ← r.required "event_type" Json.asString
  let data ← data
  let origin ← r.optional "origin" Origin.ofJson
  let timeFired ← r.optional "time_fired" Json.asInstant
  let context ← context
  pure ⟨type, data, origin.getD .local, timeFired.getD stamp.now,
    context.getD (Context.fresh stamp)⟩

def toJson (e : Event Json) : Json :=
  .object [("context", e.context.toJson), ("data", e.data), ("event_type", .string e.type),
    ("origin", .string e.origin.text), ("time_fired", e.timeFired.toJson)]

end Event

end HubAutomation
