import HubAutomation.Client.Error
import HubAutomation.Client.Options

/-!
# Locations

A hub is reached at a websocket location: the scheme `ws` or `wss`, two
slashes, a host, and what follows it.

- `LocationFault`: why a text is no websocket location.
- `locationFault?`: the fault of a text.
- `ConnectOptions.locationError?`: the error of options that name no location.
-/

namespace HubAutomation

/-- Why a text is no websocket location. -/
inductive LocationFault where
  | scheme
  | host
deriving DecidableEq

namespace LocationFault

def message : LocationFault → String
  | .scheme => "URL error: URL scheme not supported"
  | .host => "URL error: No host name in the URL"

end LocationFault

/-- What follows the scheme of a websocket location. -/
def afterScheme? : List Char → Option (List Char)
  | 'w' :: 's' :: ':' :: '/' :: '/' :: rest => some rest
  | 'w' :: 's' :: 's' :: ':' :: '/' :: '/' :: rest => some rest
  | _ => none

/-- Whether a character ends the part of a location that names the host. -/
def endsAuthority (c : Char) : Bool := c == '/' || c == '?' || c == '#'

/-- The host: what stands between the name of a user, if there is one, and a
colon. -/
def hostOf (cs : List Char) : List Char :=
  let authority := cs.takeWhile fun c => !endsAuthority c
  let afterUser := (authority.reverse.takeWhile (· ≠ '@')).reverse
  afterUser.takeWhile (· ≠ ':')

/-- The fault of a text that is no websocket location. Case does not count in
the scheme. -/
def locationFault? (location : String) : Option LocationFault :=
  match afterScheme? ((location.toList.take 6).map Char.toLower ++ location.toList.drop 6) with
  | none => some .scheme
  | some rest => if (hostOf rest).isEmpty then some .host else none

namespace ConnectOptions

/-- The error of options whose location is no websocket location; it names the
location. -/
def locationError? (o : ConnectOptions) : Option ClientError :=
  (locationFault? o.websocketUrl).map fun fault =>
    .connection (o.websocketUrl ++ ": " ++ fault.message)

end ConnectOptions

end HubAutomation
