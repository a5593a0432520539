import HubAutomation.Client.Channel
import HubAutomation.Client.Error

/-!
# Subscriptions

A client has one subscription at the hub and one stream of its own for each
event type. The hub tags events with the id of the subscription that they are
sent for, and they go to the stream of that subscription; events without a
known id go to the stream of their own type.

- `Subscriptions`: the streams, the routes to them, and what the hub knows.
- `Subscriptions.stream`: a receiver on the stream of a type.
- `Subscriptions.record`: what the hub said to a subscription.
- `Subscriptions.take`: the end of a subscription.
- `Subscriptions.dispatch`: an event arrives.
-/

namespace HubAutomation

/-- The streams of a connection and the hub's subscriptions. -/
structure Subscriptions where
  capacity : Nat
  /-- All channels that there ever were. -/
  channels : List Channel
  /-- The channel of each event type that has a stream. -/
  streams : Dict Nat
  /-- The event type of each subscription id. -/
  routes : List (Nat × String)
  /-- The id of each event type that has a subscription; there is none where the
  hub only said that the subscription exists. -/
  hub : Dict (Option Nat)

namespace Subscriptions

def new (capacity : Nat) : Subscriptions := ⟨capacity, [], [], [], []⟩

/-- Change a channel. -/
def modify (s : Subscriptions) (channel : Nat) (f : Channel → Channel) : Subscriptions :=
  { s with channels := s.channels.modify channel f }

/-- The channel of a type's stream; it is made if there is none. -/
def channelFor (s : Subscriptions) (type : String) : Subscriptions × Nat :=
  match s.streams.find? type with
  | some channel => (s, channel)
  | none =>
    ({ s with channels := s.channels ++ [.new s.capacity],
              streams := s.streams.insert type s.channels.length }, s.channels.length)

/-- A receiver on the stream of a type. -/
def stream (s : Subscriptions) (type : String) : Subscriptions × Receiver :=
  let (s, channel) := s.channelFor type
  (s.modify channel .subscribe, ⟨channel, (s.channels[channel]?.map fun c => c.events.length).getD 0⟩)

/-- A receiver is no longer read. -/
def drop (s : Subscriptions) (r : Receiver) : Subscriptions := s.modify r.channel .unsubscribe

/-- Whether a subscription is recorded. -/
def isSubscribed (s : Subscriptions) (type : String) : Bool := s.hub.mem type

/-- Record what the hub said to a subscription. The answer is whether there is
a new one; that the hub has one already is no error. -/
def record (s : Subscriptions) (type : String) (answer : ClientResult Nat) :
    Subscriptions × ClientResult Bool :=
  match answer with
  | .ok handle => ({ s with hub := s.hub.insert type (some handle) }, .ok true)
  | .error e =>
    if e.isAlreadySubscribed then ({ s with hub := s.hub.insert type none }, .ok false)
    else (s, .error e)

/-- Make sure that there is a subscription, where the hub would give some
answer. -/
def ensure (s : Subscriptions) (type : String) (answer : ClientResult Nat) :
    Subscriptions × ClientResult Bool :=
  if s.isSubscribed type then (s, .ok false) else s.record type answer

/-- Send the events of a subscription to the stream of a type. -/
def route (s : Subscriptions) (id : Nat) (type : String) : Subscriptions :=
  { s with routes := (s.routes.filter fun r => r.1 ≠ id) ++ [(id, type)] }

def unroute (s : Subscriptions) (id : Nat) : Subscriptions :=
  { s with routes := s.routes.filter fun r => r.1 ≠ id }

/-- The stream of a type ends. -/
def endStream (s : Subscriptions) (type : String) : Subscriptions :=
  match s.streams.find? type with
  | some channel => { s.modify channel .finish with streams := s.streams.erase type }
  | none => s

/-- Take the subscription of a type out, and end its stream. -/
def take (s : Subscriptions) (type : String) : Option (Subscriptions × Option Nat) :=
  (s.hub.find? type).map fun handle =>
    ({ s.endStream type with
        hub := s.hub.erase type
        routes := s.routes.filter fun r => r.2 ≠ type }, handle)

/-- The type whose stream an event goes to. -/
def target (s : Subscriptions) (id : Option Nat) (event : Event Json) : String :=
  match id.bind fun id => s.routes.find? fun r => r.1 = id with
  | some (_, type) => type
  | none => event.type

/-- An event arrives. -/
def dispatch (s : Subscriptions) (id : Option Nat) (event : Event Json) : Subscriptions :=
  match s.streams.find? (s.target id event) with
  | some channel => s.modify channel fun c => c.send event
  | none => s

/-- How many receivers an event reaches. -/
def audience (s : Subscriptions) (id : Option Nat) (event : Event Json) : Nat :=
  match s.streams.find? (s.target id event) with
  | some channel => (s.channels[channel]?.map Channel.receivers).getD 0
  | none => 0

/-- End all streams. What the hub knows stays recorded. -/
def close (s : Subscriptions) : Subscriptions :=
  { s with channels := s.channels.map .finish, streams := [], routes := [] }

/-- The channel of a receiver. -/
def channelOf (s : Subscriptions) (r : Receiver) : Channel := s.channels[r.channel]?.getD (.new 1)

/-- Read on. -/
def receive (s : Subscriptions) (r : Receiver) : Received Json × Receiver :=
  let (received, next) := (s.channelOf r).receive r.next
  (received, { r with next })

/-- Read on, and skip what was lost. -/
def receiveKept (s : Subscriptions) (r : Receiver) : Received Json × Receiver :=
  let (received, next) := (s.channelOf r).receiveKept r.next
  (received, { r with next })

/-- Read on to the next state change. -/
def receiveChange (stamp : Stamp) (s : Subscriptions) (r : Receiver) :
    Received StateChange × Receiver :=
  let c := s.channelOf r
  let (received, next) := c.receiveChange stamp (c.events.length + 1) r.next
  (received, { r with next })

end Subscriptions

end HubAutomation
