import HubAutomation.Event

/-!
# Channels

A channel hands events to its receivers, each of which reads at its own pace.
It keeps as many events as its window is long; a receiver that falls behind is
told how many events it lost, and goes on with the oldest one that is kept. A
receiver gets the events that were sent after it was made.

- `Channel`: the events, and how many receivers there are.
- `Receiver`: a channel, and how far it was read.
- `Channel.receive`: read on.
-/

namespace HubAutomation

/-- A channel. -/
structure Channel where
  /-- How many events are kept. -/
  window : Nat
  /-- All events that were sent; only the last ones can be read. -/
  events : List (Event Json)
  receivers : Nat
  /-- Whether no more events come. -/
  ended : Bool

/-- A channel by its number, and how many of its events were read. -/
structure Receiver where
  channel : Nat
  next : Nat
deriving DecidableEq

/-- What a receiver gets. -/
inductive Received (α : Type) where
  | event (event : Event α)
  | nothingYet
  | ended
  /-- The receiver fell behind and lost that many events. -/
  | lagged (count : Nat)

namespace Channel

/-- The window of a capacity: the least power of two that is not below it. -/
def windowFor (capacity : Nat) : Nat := if capacity ≤ 1 then 1 else Nat.pow 2 ((capacity - 1).log2 + 1)

def new (capacity : Nat) : Channel := ⟨windowFor capacity, [], 0, false⟩

/-- One more receiver. -/
def subscribe (c : Channel) : Channel := { c with receivers := c.receivers + 1 }

/-- One receiver less. -/
def unsubscribe (c : Channel) : Channel := { c with receivers := c.receivers - 1 }

def send (c : Channel) (event : Event Json) : Channel := { c with events := c.events ++ [event] }

/-- No more events come. -/
def finish (c : Channel) : Channel := { c with ended := true }

/-- The first event that is kept. -/
def oldest (c : Channel) : Nat := c.events.length - c.window

/-- What a receiver gets that has read the events before `next`, and how far it
has read then. -/
def receive (c : Channel) (next : Nat) : Received Json × Nat :=
  if next < c.oldest then (.lagged (c.oldest - next), c.oldest)
  else
    match c.events[next]? with
    | some event => (.event event, next + 1)
    | none => (if c.ended then .ended else .nothingYet, next)

/-- What a receiver gets that does not want to know what it lost. -/
def receiveKept (c : Channel) (next : Nat) : Received Json × Nat := c.receive (max next c.oldest)

/-- Read on to the next state change; events that are none are skipped. -/
def receiveChange (stamp : Stamp) (c : Channel) :
    (fuel next : Nat) → Received StateChange × Nat
  | 0, next => (.nothingYet, next)
  | fuel + 1, next =>
    match c.receiveKept next with
    | (.event event, next) =>
      match event.typed stamp with
      | .ok change => (.event change, next)
      | .error _ => receiveChange stamp c fuel next
    | (.ended, next) => (.ended, next)
    | (_, next) => (.nothingYet, next)

end Channel

end HubAutomation
