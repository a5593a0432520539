import HubAutomation.Client.Connection
import HubAutomation.Difference

/-!
# Calls

What a client offers on top of commands: calls with answers of their own types.

- `Call`: the calls. `CallAnswer`: their answers.
- `Call.request`: what a call asks of the connection.
- `Call.answer`: the answer to a call from what the connection says.
-/

namespace HubAutomation

/-- How a listener takes its events. -/
inductive ListenerKind where
  /-- One by one. -/
  | plain
  /-- One by one, state changes only. -/
  | typed
  /-- All of them, as they come. -/
  | callback
deriving DecidableEq

/-- A call of a client. -/
inductive Call where
  | send (command : Command)
  | getStates
  | getServices
  | getConfig
  | getPanels
  | ping
  | callService (call : ServiceCall)
  | listen (kind : ListenerKind) (eventType : String)
  | unlisten (eventType : String)
  | close
  | countPending
  /-- Run the service that a shorthand names. -/
  | callShorthand (shorthand : String) (data : Json)
  /-- The state of an entity. -/
  | entity (id : String)
  /-- The states of some entities, in the order of their ids. -/
  | entities (ids : List String)
  /-- What differs between two states. -/
  | difference (old new : State)
  /-- What differs between the sides of a change. -/
  | changeDifference (change : StateChange)

/-- The answer to a call. -/
inductive CallAnswer where
  | nothing
  | json (value : Json)
  | states (states : List State)
  | entity (state : Option State)
  | differences (differences : List Difference)
  | listening (eventType : String)
  | count (commands : Nat)

namespace CallAnswer

/-- The answer that a value of the connection gives where nothing else is asked
for. -/
def ofValue : CallValue → CallAnswer
  | .json value => .json value
  | .listener eventType _ => .listening eventType
  | .count commands => .count commands

end CallAnswer

/-- The first of some states that belongs to an entity. -/
def State.ofEntity? (states : List State) (id : String) : Option State :=
  states.find? fun s => s.entityId.text = id

/-- The states in a document. -/
def State.listOf (stamp : Stamp) (value : Json) : ClientResult (List State) :=
  (value.asList (State.ofJson stamp)).mapError .codec

namespace Call

/-- The service call of a shorthand. -/
def ofShorthand (shorthand : String) (data : Json) : ClientResult ServiceCall :=
  (ServiceCall.ofShorthand shorthand data).mapError fun e => .invalidRequest e.message

/-- The command of a service call. -/
def serviceCommand (call : ServiceCall) : Command := .callService call.domain call.service call.data

/-- What a call asks of the connection. -/
def request : Call → Request
  | .send command => .command command
  | .getStates | .entity _ => .command .getStates
  | .getServices => .command .getServices
  | .getConfig => .command .getConfig
  | .getPanels => .command .getPanels
  | .ping => .command .ping
  | .callService call => .command (serviceCommand call)
  | .listen _ eventType => .listen eventType
  | .unlisten eventType => .unlisten eventType
  | .close => .close
  | .countPending => .countPending
  | .callShorthand shorthand data =>
    match ofShorthand shorthand data with
    | .ok call => .command (serviceCommand call)
    | .error _ => .nothing
  | .entities [] => .nothing
  | .entities _ => .command .getStates
  | .difference _ _ | .changeDifference _ => .nothing

/-- The states that the hub answers with. -/
def statesIn (stamp : Stamp) : CallValue → ClientResult (List State)
  | .json value => State.listOf stamp value
  | _ => .ok []

/-- The answer to a call from what the connection says. -/
def answer (stamp : Stamp) (call : Call) (result : ClientResult CallValue) :
    ClientResult CallAnswer :=
  match call with
  | .callShorthand shorthand data => do
    let _ ← ofShorthand shorthand data
    let _ ← result
    pure .nothing
  | .ping | .callService _ | .unlisten _ | .close => result.map fun _ => .nothing
  | .getStates => do return .states (← statesIn stamp (← result))
  | .entity id => do return .entity (State.ofEntity? (← statesIn stamp (← result)) id)
  | .entities [] => .ok (.states [])
  | .entities ids => do
    let states ← statesIn stamp (← result)
    return .states (ids.filterMap (State.ofEntity? states))
  | .difference old new => .ok (.differences (old.toJson.diff new.toJson))
  | .changeDifference change =>
    .ok (.differences ((Json.ofOption State.toJson change.old).diff
      (.ofOption State.toJson change.new)))
  | .send _ | .getServices | .getConfig | .getPanels | .listen _ _ | .countPending =>
    result.map .ofValue

end Call

end HubAutomation
