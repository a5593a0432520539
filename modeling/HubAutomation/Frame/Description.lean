import HubAutomation.Frame
import HubAutomation.Json.Printer
import HubAutomation.Text.Quoted

/-!
# Frames in error messages

The full description of a frame that the client did not expect: the kind of the
frame with all its fields by name.

- `Frame.describe`: the description.
-/

namespace HubAutomation

/-- A named group of fields. -/
def describeFields (name : String) (fields : List (String × String)) : String :=
  name ++ " \x7b " ++ ", ".intercalate (fields.map fun f => f.1 ++ ": " ++ f.2) ++ " \x7d"

/-- A kind with one value. -/
def describeValue (name value : String) : String := name ++ "(" ++ value ++ ")"

def describeOption {α : Type} (describe : α → String) : Option α → String
  | some a => describeValue "Some" (describe a)
  | none => "None"

def describeText : Option String → String := describeOption Text.quoted

namespace Json

mutual

/-- A document with the kind of each value. -/
def describe : Json → String
  | .null => "Null"
  | .bool true => describeValue "Bool" "true"
  | .bool false => describeValue "Bool" "false"
  | .number n => describeValue "Number" (String.ofList (numberChars n))
  | .string s => describeValue "String" (Text.quoted s)
  | .array items => "Array [" ++ ", ".intercalate (describeItems items) ++ "]"
  | .object members => "Object \x7b" ++ ", ".intercalate (describeMembers members) ++ "\x7d"

def describeItems : List Json → List String
  | [] => []
  | j :: rest => describe j :: describeItems rest

def describeMembers : List (String × Json) → List String
  | [] => []
  | (k, j) :: rest => (Text.quoted k ++ ": " ++ describe j) :: describeMembers rest

end

end Json

def Context.describe (c : Context) : String :=
  describeFields "Context"
    [("id", Text.quoted c.id), ("user_id", describeText c.userId),
      ("parent_id", describeText c.parentId)]

def Origin.describe : Origin → String
  | .local => "Local"
  | .remote => "Remote"

def Event.describe (e : Event Json) : String :=
  describeFields "Event"
    [("event_type", describeValue "EventType" (Text.quoted e.type)), ("data", e.data.describe),
      ("origin", e.origin.describe), ("time_fired", e.timeFired.text),
      ("context", e.context.describe)]

def Refusal.describe (r : Refusal) : String :=
  describeFields "ErrorInfo" [("code", Text.quoted r.code), ("message", Text.quoted r.message)]

def CommandResult.describe (f : CommandResult) : String :=
  describeFields "ResultFrame"
    [("id", toString f.id), ("success", if f.success then "true" else "false"),
      ("result", describeOption Json.describe f.result),
      ("error", describeOption Refusal.describe f.error)]

def EventFrame.describe (f : EventFrame) : String :=
  describeFields "EventFrame"
    [("id", describeOption toString f.id), ("event", f.event.describe)]

/-- A frame with all its fields. -/
def Frame.describe : Frame → String
  | .authRequired version => describeFields "AuthRequired" [("ha_version", describeText version)]
  | .authOk version => describeFields "AuthOk" [("ha_version", describeText version)]
  | .authInvalid message => describeFields "AuthInvalid" [("message", describeText message)]
  | .result frame => describeValue "Result" frame.describe
  | .event frame => describeValue "Event" frame.describe
  | .pong id => describeFields "Pong" [("id", toString id)]
  | .unknown => "Unknown"

end HubAutomation
