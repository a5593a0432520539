import HubAutomation.Event
import HubAutomation.Json.Tagged

/-!
# Frames

What the hub sends: one JSON document per message, tagged with its type.

- `Frame`: the frames that a client knows.
- `Frame.decode`: the frame of a text.
- `CommandResult.outcome`: what a result frame means for its command.
-/

namespace HubAutomation

/-- Why the hub refused a command. -/
structure Refusal where
  code : String
  message : String
deriving DecidableEq

/-- The answer to a command. -/
structure CommandResult where
  id : Nat
  success : Bool
  result : Option Json
  error : Option Refusal

/-- An event, and the id of the subscription that it was sent for. -/
structure EventFrame where
  id : Option Nat
  event : Event Json

/-- A message of the hub. -/
inductive Frame where
  | authRequired (hubVersion : Option String)
  | authOk (hubVersion : Option String)
  | authInvalid (message : Option String)
  | result (frame : CommandResult)
  | event (frame : EventFrame)
  | pong (id : Nat)
  /-- A message of a type that the client does not handle. -/
  | unknown

namespace Refusal

/-- The code is a text, or any document as its text; nothing counts as empty. -/
def codeOf (j : Json) : String :=
  match j.canonical with
  | .string s => s
  | .null => ""
  | j => j.text

def ofJson (j : Json) : ReadResult Refusal := do
  let r ← Record.ofJson ["code", "message"] j
  let message ← r.optional "message" Json.asString
  pure ⟨((r.field? "code").map codeOf).getD "", message.getD ""⟩

end Refusal

namespace CommandResult

def fieldNames : List String := ["id", "success", "result", "error"]

def ofJson (j : Json) : ReadResult CommandResult := do
  let r ← Record.ofJson fieldNames j
  let id ← r.required "id" Json.asNat
  let success ← r.required "success" Json.asBool
  let result ← r.nullable "result" Json.asValue
  let error ← r.nullable "error" Refusal.ofJson
  pure ⟨id, success, result, error⟩

/-- The result of a command that succeeded, or why it was refused. -/
def outcome (f : CommandResult) : Except Refusal Json :=
  if f.success then .ok (f.result.getD .null) else .error (f.error.getD ⟨"", ""⟩)

end CommandResult

namespace EventFrame

/-- The event frame in a document whose tag was looked for first. -/
def ofJson (stamp : Stamp) (j : Json) : ReadResult EventFrame := do
  let r ← Record.ofJson ["id", "event"] j
  let id ← r.nullable "id" Json.asNat
  let event ← r.required "event" (Event.ofBuffered stamp)
  pure ⟨id, event⟩

end EventFrame

namespace Frame

/-- A record with one text that may be absent. -/
def optionalText (name : String) (body : Json) : ReadResult (Option String) := do
  let r ← Record.ofJson [name] body
  r.nullable name Json.asString

/-- The frame in a tagged document. -/
def ofTagged (stamp : Stamp) (t : Tagged) : ReadResult Frame :=
  match t.tag with
  | "auth_required" => (optionalText "ha_version" t.body).map .authRequired
  | "auth_ok" => (optionalText "ha_version" t.body).map .authOk
  | "auth_invalid" => (optionalText "message" t.body).map .authInvalid
  | "result" => (CommandResult.ofJson t.body).map .result
  | "event" => (EventFrame.ofJson stamp t.body).map .event
  | "pong" => do
    let r ← Record.ofJson ["id"] t.body
    return .pong (← r.required "id" Json.asNat)
  | _ =>
    match t.body with
    | .array (_ :: _) => .error .mismatch
    | _ => .ok .unknown

/-- The frame of a text. What follows the document is looked at last. -/
def decode (stamp : Stamp) (text : String) : ReadResult Frame := do
  let (t, rest) ← Tagged.read text.toList
  let frame ← ofTagged stamp t
  if Json.atEnd rest then pure frame else .error .malformed

end Frame

end HubAutomation
