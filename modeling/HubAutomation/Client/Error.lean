import HubAutomation.Frame

/-!
# Errors of the client

- `ClientError`: what can go wrong between a caller and the hub.
- `ClientError.isAlreadySubscribed`: whether the hub refused a subscription
  because it exists.
-/

namespace HubAutomation

/-- What can go wrong between a caller and the hub. -/
inductive ClientError where
  /-- The connection could not be opened. -/
  | connection (reason : String)
  /-- The hub did not accept the token, or there was none to offer. -/
  | authentication (reason : String)
  /-- The hub refused the command. -/
  | command (refusal : Refusal)
  /-- The connection ended while the command was open. -/
  | connectionLost (reason : String)
  /-- A frame or its contents could not be read. -/
  | codec (cause : ReadError)
  /-- The hub sent what the protocol does not allow. -/
  | protocol (reason : String)
  /-- The caller asked for what cannot be made a command. -/
  | invalidRequest (reason : String)
deriving DecidableEq

/-- What comes of asking the client for something. -/
abbrev ClientResult (α : Type) := Except ClientError α

namespace ClientError

/-- The explanation; for a fault of a document only where it has one. -/
def message? : ClientError → Option String
  | .connection reason => some ("connection error: " ++ reason)
  | .authentication reason => some ("authentication failed: " ++ reason)
  | .command r => some ("command failed (" ++ r.code ++ "): " ++ r.message)
  | .connectionLost reason => some ("connection lost: " ++ reason)
  | .codec cause => cause.message?
  | .protocol reason => some ("protocol error: " ++ reason)
  | .invalidRequest reason => some ("invalid request: " ++ reason)

/-- Whether one text occurs in another. -/
def occursIn (part : List Char) : List Char → Bool
  | [] => part.isEmpty
  | c :: cs => part.isPrefixOf (c :: cs) || occursIn part cs

/-- The texts by which hubs without an error code say that a subscription
exists. -/
def duplicateTexts : List String := ["already subscribed", "already exists"]

/-- Whether the hub refused a subscription because it exists. Case does not
count in the message. ASCII letters are enough for that, as no other letter
lowers to a single letter of these texts. -/
def isAlreadySubscribed : ClientError → Bool
  | .command r =>
    let lowered := r.message.toList.map Char.toLower
    r.code == "already_subscribed" || duplicateTexts.any fun t => occursIn t.toList lowered
  | _ => false

end ClientError

end HubAutomation
