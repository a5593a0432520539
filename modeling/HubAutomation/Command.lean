import HubAutomation.Json.Record
import HubAutomation.Json.Tagged

/-!
# Commands

What a client asks of the hub. On the wire a command is an object with its
kind as `type`, its own fields, and the id under which the hub answers it.

- `Command`: the commands.
- `Command.frame`: the text that goes over the wire.
- `authFrame`: the text that answers the hub's question for a token.
-/

namespace HubAutomation

/-- A command to the hub. -/
inductive Command where
  /-- Send events of a type, or all of them. -/
  | subscribeEvents (eventType : Option String)
  | unsubscribeEvents (subscription : Nat)
  | callService (domain service : String) (data : Json)
  | getStates
  | getServices
  | getConfig
  | getPanels
  | ping

namespace Command

/-- The `type` of the frame. -/
def kind : Command → String
  | .subscribeEvents _ => "subscribe_events"
  | .unsubscribeEvents _ => "unsubscribe_events"
  | .callService _ _ _ => "call_service"
  | .getStates => "get_states"
  | .getServices => "get_services"
  | .getConfig => "get_config"
  | .getPanels => "get_panels"
  | .ping => "ping"

/-- The fields of a command besides its kind. -/
def fields : Command → List (String × Json)
  | .subscribeEvents (some eventType) => [("event_type", .string eventType)]
  | .unsubscribeEvents subscription => [("subscription", .nat subscription)]
  | .callService domain service data =>
    [("domain", .string domain), ("service", .string service), ("service_data", data)]
  | .subscribeEvents none | .getStates | .getServices | .getConfig | .getPanels | .ping => []

/-- The document of a command with its id. -/
def document (id : Nat) (c : Command) : Json :=
  .ofMembers (c.fields ++ [("type", .string c.kind), ("id", .nat id)])

/-- The text that goes over the wire. -/
def frame (id : Nat) (c : Command) : String := (c.document id).text

/-- A command without fields: an object may hold anything, an array nothing. -/
def bare (c : Command) : Json → ReadResult Command
  | .array (_ :: _) => .error .mismatch
  | _ => .ok c

/-- The command in a tagged document. -/
def ofTagged (t : Tagged) : ReadResult Command :=
  match t.tag with
  | "subscribe_events" => do
    let r ← Record.ofJson ["event_type"] t.body
    return .subscribeEvents (← r.nullable "event_type" Json.asString)
  | "unsubscribe_events" => do
    let r ← Record.ofJson ["subscription"] t.body
    return .unsubscribeEvents (← r.required "subscription" Json.asNat)
  | "call_service" => do
    let r ← Record.ofJson ["domain", "service", "service_data"] t.body
    let domain ← r.required "domain" Json.asString
    let service ← r.required "service" Json.asString
    let data ← r.optional "service_data" Json.asValue
    return .callService domain service (data.getD .null)
  | "get_states" => bare .getStates t.body
  | "get_services" => bare .getServices t.body
  | "get_config" => bare .getConfig t.body
  | "get_panels" => bare .getPanels t.body
  | "ping" => bare .ping t.body
  | _ => .error .mismatch

/-- The command in a canonical document. -/
def ofJson (j : Json) : ReadResult Command := do ofTagged (← Tagged.ofJson j)

end Command

/-- The text that answers the hub's question for a token. -/
def authFrame (token : String) : String :=
  (Json.object [("type", .string "auth"), ("access_token", .string token)]).text

end HubAutomation
