import HubAutomation.Client.Options
import HubAutomation.Text.Blank
import HubAutomation.Text.Digits

/-!
# Settings

Connection options from variables such as `HASS_HOST`. A blank value counts as
unset. Of several faults the one in `HASS_PORT` is reported first, then the one
in `HASS_SECURE`, then the one in `HASS_URL`.

- `SettingError`: a value that cannot be used.
- `ConnectOptions.ofVariables`: the options of some variables.
-/

namespace HubAutomation

/-- Why a text cannot be a `HASS_PORT`. -/
inductive PortFault where
  | empty
  | invalidDigit
  | tooLarge
deriving DecidableEq

namespace PortFault

def message : PortFault → String
  | .empty => "cannot parse integer from empty string"
  | .invalidDigit => "invalid digit found in string"
  | .tooLarge => "number too large to fit in target type"

end PortFault

/-- A value that cannot be used. -/
inductive SettingError where
  | portNumber (value : String) (fault : PortFault)
  | secure (value : String)
  | url (value : String)
deriving DecidableEq

namespace SettingError

/-- The variable with the value. -/
def key : SettingError → String
  | .portNumber _ _ => "HASS_PORT"
  | .secure _ => "HASS_SECURE"
  | .url _ => "HASS_URL"

def reason : SettingError → String
  | .portNumber value fault => "'" ++ value ++ "' is not a port number: " ++ fault.message
  | .secure value => "'" ++ value ++ "' is not a boolean"
  | .url value => "'" ++ value ++ "' must start with ws:// or wss://"

def message (e : SettingError) : String :=
  "invalid configuration value for '" ++ e.key ++ "': " ++ e.reason

end SettingError

namespace Settings

/-- The largest `HASS_PORT`. -/
def largestPort : Nat := 65535

/-- Go through the digits; what is wrong first is reported. -/
def portOfDigits (n : Nat) : List Char → Except PortFault Nat
  | [] => .ok n
  | c :: rest =>
    if ¬ c.isDigit then .error .invalidDigit
    else if largestPort < n * 10 + Text.digitValue c then .error .tooLarge
    else portOfDigits (n * 10 + Text.digitValue c) rest

/-- Digits, perhaps after a plus. -/
def parsePort (cs : List Char) : Except PortFault Nat :=
  match cs with
  | [] => .error .empty
  | ['+'] => .error .invalidDigit
  | '+' :: rest => portOfDigits 0 rest
  | cs => portOfDigits 0 cs

def trueWords : List String := ["1", "true", "yes", "on"]

def falseWords : List String := ["0", "false", "no", "off"]

/-- A yes or no in any of the usual words; case does not count. -/
def parseSwitch (value : String) : Except SettingError Bool :=
  let word := String.ofList ((Text.trim value.toList).map Char.toLower)
  if word ∈ trueWords then .ok true
  else if word ∈ falseWords then .ok false
  else .error (.secure word)

/-- Whether a location has a scheme of websockets. -/
def hasWebsocketScheme (url : String) : Bool :=
  "ws://".toList.isPrefixOf url.toList || "wss://".toList.isPrefixOf url.toList

/-- The value of a variable unless it is blank. -/
def value? (lookup : String → Option String) (key : String) : Option String :=
  (lookup key).filter fun v => !v.toList.all Text.isBlank

def portNumber (value : String) : Except SettingError Nat :=
  match parsePort (Text.trim value.toList) with
  | .ok n => .ok n
  | .error fault => .error (.portNumber value fault)

def url (value : String) : Except SettingError String :=
  if hasWebsocketScheme value then .ok value else .error (.url value)

/-- A variable read by `read`, or the default. -/
def orDefault {α : Type} (default : α) (read : String → Except SettingError α) :
    Option String → Except SettingError α
  | some value => read value
  | none => .ok default

end Settings

open Settings in
/-- The options of some variables. -/
def ConnectOptions.ofVariables (lookup : String → Option String) :
    Except SettingError ConnectOptions := do
  let defaults : ConnectOptions := {}
  let portNumber ← orDefault defaults.portNumber Settings.portNumber (value? lookup "HASS_PORT")
  let secure ← orDefault defaults.secure parseSwitch (value? lookup "HASS_SECURE")
  let url ← orDefault defaults.url (fun v => (Settings.url v).map some) (value? lookup "HASS_URL")
  pure { defaults with
    host := (value? lookup "HASS_HOST").getD defaults.host
    portNumber
    path := (value? lookup "HASS_PATH").getD defaults.path
    secure
    url
    token := value? lookup "HASS_TOKEN" }

end HubAutomation
