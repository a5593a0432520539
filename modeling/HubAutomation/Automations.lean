import HubAutomation.Dict
import HubAutomation.Trigger.Dispatcher

/-!
# Automations

Automations are handlers that go by a key of their own, such as the name of the
script that they come from.

- `Automations`: the keys, and the handlers behind them.
- `Automations.put`, `Automations.withdraw`: its changes.
-/

namespace HubAutomation

/-- Handlers with keys. -/
structure Automations where
  /-- The id of the handler behind each key. -/
  keys : Dict Nat
  dispatcher : Dispatcher

namespace Automations

/-- No automations, and a clock that shows some time. -/
def new (now : Nat) : Automations := ⟨[], .new now⟩

/-- How many keys there are. -/
def size (a : Automations) : Nat := a.keys.length

def contains (a : Automations) (key : String) : Bool := a.keys.mem key

def handlerId? (a : Automations) (key : String) : Option Nat := a.keys.find? key

/-- Take the automation with a key out. -/
def remove (a : Automations) (key : String) : Automations :=
  match a.keys.find? key with
  | some id => ⟨a.keys.erase key, a.dispatcher.detach id⟩
  | none => a

/-- Take the automation with a key out, and say whether there was one. -/
def withdraw (a : Automations) (key : String) : Bool × Automations := (a.contains key, a.remove key)

/-- Put a handler under a key, and take out the one that was there. -/
def put (a : Automations) (key : String) (h : TriggerHandler) : Automations :=
  let a := a.remove key
  let dispatcher := a.dispatcher.attach h
  ⟨a.keys.insert key dispatcher.set.lastId, dispatcher⟩

end Automations

end HubAutomation
