/-!
# Connection options

- `ConnectOptions`: where the hub is and how to talk to it.
- `ConnectOptions.websocketUrl`: the location to open.
-/

namespace HubAutomation

/-- Where the hub is and how to talk to it. -/
structure ConnectOptions where
  host : String := "hassio.local"
  portNumber : Nat := 8123
  path : String := "/api/websocket"
  /-- Whether the connection is encrypted. -/
  secure : Bool := false
  token : Option String := none
  /-- The whole location, in place of the parts above. -/
  url : Option String := none
  /-- The time for opening and authenticating, in milliseconds. -/
  handshakeTimeout : Nat := 10000
  /-- How many events a listener may fall behind. -/
  channelCapacity : Nat := 1024

namespace ConnectOptions

/-- Set the capacity, which is at least 1. -/
def withChannelCapacity (o : ConnectOptions) (capacity : Nat) : ConnectOptions :=
  { o with channelCapacity := max capacity 1 }

/-- The location to open. A path gets the slash that it lacks. -/
def websocketUrl (o : ConnectOptions) : String :=
  match o.url with
  | some url => url
  | none =>
    let scheme := if o.secure then "wss" else "ws"
    let path := if o.path.toList.head? = some '/' then o.path else "/" ++ o.path
    scheme ++ "://" ++ o.host ++ ":" ++ toString o.portNumber ++ path

/-- The token; an empty one counts as none. -/
def usableToken (o : ConnectOptions) : Option String := o.token.filter (· ≠ "")

end ConnectOptions

end HubAutomation
