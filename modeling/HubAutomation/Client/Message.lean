import HubAutomation.Command
import HubAutomation.Text.Quoted

/-!
# Messages

What goes over an open websocket, in both directions.

- `Incoming`: what can be read. `CloseFrame`: how the hub says goodbye.
- `Outgoing`: what waits to be written. `Written`: what was written.
- `transportFault`: the text of a fault of the transport.
-/

namespace HubAutomation

/-- Why a side closes the connection. -/
structure CloseFrame where
  code : Nat
  reason : String
deriving DecidableEq

/-- What can be read from a websocket. -/
inductive Incoming where
  | text (text : String)
  | binary
  /-- A ping, or the answer to one. -/
  | ping
  | close (frame : Option CloseFrame)
  /-- Reading fails. -/
  | fault (text : String)
  /-- The stream ends. -/
  | ended

/-- What waits to be written. -/
inductive Outgoing where
  | command (id : Nat) (command : Command)
  | close

/-- What was written to a websocket. -/
inductive Written where
  /-- The answer to the hub's question for a token. -/
  | token (token : String)
  | command (id : Nat) (command : Command)
  | close
  /-- Nothing more is written. -/
  | closed

namespace Outgoing

def written : Outgoing → Written
  | .command id c => .command id c
  | .close => .close

end Outgoing

namespace Written

/-- The text of what is written as a frame. -/
def frame? : Written → Option String
  | .token t => some (authFrame t)
  | .command id c => some (c.frame id)
  | .close | .closed => none

end Written

/-- The text of a fault of the transport. -/
def transportFault (text : String) : String := "IO error: " ++ text

namespace CloseFrame

/-- The name of a code. Codes without a meaning of their own belong to a range. -/
def codeText (code : Nat) : String :=
  match code with
  | 1000 => "Normal"
  | 1001 => "Away"
  | 1002 => "Protocol"
  | 1003 => "Unsupported"
  | 1005 => "Status"
  | 1006 => "Abnormal"
  | 1007 => "Invalid"
  | 1008 => "Policy"
  | 1009 => "Size"
  | 1010 => "Extension"
  | 1011 => "Error"
  | 1012 => "Restart"
  | 1013 => "Again"
  | 1015 => "Tls"
  | _ =>
    let range :=
      if 1015 < code && code < 3000 then "Reserved"
      else if 3000 ≤ code && code < 4000 then "Iana"
      else if 4000 ≤ code && code < 5000 then "Library"
      else "Bad"
    range ++ "(" ++ toString code ++ ")"

/-- How a close frame that may be missing is shown. -/
def describe : Option CloseFrame → String
  | none => "None"
  | some f =>
    "Some(CloseFrame \x7b code: " ++ codeText f.code ++ ", reason: " ++ Text.quoted f.reason ++
      " \x7d)"

end CloseFrame

end HubAutomation
