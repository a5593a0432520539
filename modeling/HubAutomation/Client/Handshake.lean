import HubAutomation.Client.Message
import HubAutomation.Client.Options
import HubAutomation.Command
import HubAutomation.Client.Error
import HubAutomation.Frame.Description

/-!
# The handshake

A hub lets a client in at once, or asks for a token first. What the hub has
sent is read frame by frame; when it says nothing more, time runs out.

- `Handshake`: what comes of a handshake.
- `authenticate`: the handshake with a token, on what the hub has sent.
-/

namespace HubAutomation

/-- What comes of a handshake. -/
structure Handshake where
  /-- The version of the hub, if it names one. -/
  outcome : ClientResult (Option String)
  written : List Written
  /-- What was not read. -/
  rest : List Incoming
  /-- Whether time ran out. -/
  timedOut : Bool

/-- What comes of waiting for a frame. -/
inductive NextFrame where
  | frame (frame : Frame) (rest : List Incoming)
  | failed (cause : ClientError)
  | silence

/-- The next frame. Messages that are neither text nor a farewell are skipped. -/
def nextFrame (stamp : Stamp) : List Incoming → NextFrame
  | [] => .silence
  | .binary :: rest | .ping :: rest => nextFrame stamp rest
  | .text text :: rest =>
    match Frame.decode stamp text with
    | .ok frame => .frame frame rest
    | .error cause => .failed (.codec cause)
  | .close frame :: _ =>
    .failed (.connection
      ("hub closed the connection during the handshake: " ++ CloseFrame.describe frame))
  | .fault text :: _ => .failed (.connection (transportFault text))
  | .ended :: _ => .failed (.connection "connection ended during the handshake")

namespace Handshake

/-- A handshake that fails. -/
def failed (written : List Written) (cause : ClientError) : Handshake :=
  ⟨.error cause, written, [], false⟩

/-- A handshake that takes too long. -/
def late (written : List Written) : Handshake :=
  ⟨.error (.connection "timed out during authentication"), written, [], true⟩

/-- A handshake that succeeds. -/
def accepted (written : List Written) (hubVersion : Option String) (rest : List Incoming) :
    Handshake :=
  ⟨.ok hubVersion, written, rest, false⟩

/-- The hub's answer to a token. -/
def answer (stamp : Stamp) (written : List Written) (items : List Incoming) : Handshake :=
  match nextFrame stamp items with
  | .silence => late written
  | .failed cause => failed written cause
  | .frame (.authOk version) rest => accepted written version rest
  | .frame (.authInvalid message) _ =>
    failed written (.authentication (message.getD "invalid access token"))
  | .frame other _ =>
    failed written (.protocol ("unexpected frame during authentication: " ++ other.describe))

end Handshake

open Handshake in
/-- The handshake. If `broken` is given, writing fails with that text. -/
def authenticate (stamp : Stamp) (token : Option String) (broken : Option String)
    (items : List Incoming) : Handshake :=
  match nextFrame stamp items with
  | .silence => late []
  | .failed cause => failed [] cause
  | .frame (.authOk version) rest => accepted [] version rest
  | .frame (.authRequired _) rest =>
    match token, broken with
    | none, _ => failed [] (.authentication "no token provided")
    | some _, some fault => failed [] (.connection (transportFault fault))
    | some token, none => answer stamp [.token token] rest
  | .frame (.authInvalid message) _ =>
    failed [] (.authentication (message.getD "rejected before authentication"))
  | .frame other _ =>
    failed [] (.protocol ("expected auth_required or auth_ok, got " ++ other.describe))

end HubAutomation
