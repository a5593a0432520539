import HubAutomation.Event

/-!
# Callbacks

What a trigger runs when it is called. A callback is known by what it does as
far as anyone can tell from outside: whether it detaches a handler, panics,
takes time, and how it ends.

- `Script`: such a description.
- `Happening α`: what is seen of callbacks that are given an `α`.
- `Delivery α`: what is done with payloads, and when.
- `Callback`: a script, or the logger of state changes.
-/

namespace HubAutomation

/-- What a callback panics with. -/
inductive Panic where
  | text (message : String)
  /-- Something that is no text. -/
  | other
deriving DecidableEq

namespace Panic

def message : Panic → String
  | .text message => message
  | .other => "non-string panic payload"

end Panic

/-- How a callback ends. -/
inductive Ending where
  | success
  | failure (error : String)
  | panic (cause : Panic)

/-- A line in the log. -/
inductive Notice where
  | callbackFailed (error : String)
  | callbackPanicked (cause : Panic)
  | stateChanged (entityId before after : String)

namespace Ending

/-- Failures and panics are logged and go no further. -/
def notice? : Ending → Option Notice
  | .success => none
  | .failure error => some (.callbackFailed error)
  | .panic cause => some (.callbackPanicked cause)

end Ending

/-- What a callback does, in the order of the fields. -/
structure Script where
  label : String
  /-- The number of a handler that it detaches from its own set. -/
  detaches : Option Nat
  panics : Option Panic
  /-- How long it takes, in milliseconds. -/
  sleeps : Option Nat
  ending : Ending

namespace Script

/-- A callback that does nothing. -/
def plain (label : String) : Script := ⟨label, none, none, none, .success⟩

end Script

/-- What is seen of callbacks. -/
inductive Happening (α : Type) where
  | called (label : String) (time : Nat) (payload : α)
  /-- A callback woke up from its sleep. -/
  | woke (label : String) (time : Nat) (payload : α)
  | noted (notice : Notice)

namespace Happening

variable {α : Type}

/-- A line in the log, if there is one. -/
def ofNotice? : Option Notice → List (Happening α)
  | some notice => [.noted notice]
  | none => []

def isNoted : Happening α → Bool
  | .noted _ => true
  | _ => false

end Happening

/-- What is done with payloads that are delivered. -/
structure Delivery (α : Type) where
  /-- What is seen when a delivery begins. -/
  start : (now : Nat) → α → List (Happening α)
  /-- How long the delivery waits before it goes on, if it does. -/
  takes? : (now : Nat) → α → Option Nat
  /-- What is seen when it has gone on. -/
  finish : (now : Nat) → α → List (Happening α)

/-- A moment of a delivery. -/
inductive DeliveryMoment (α : Type) where
  | begun (time : Nat) (payload : α)
  /-- A delivery that waited went on and ended. -/
  | ended (time : Nat) (payload : α)

namespace Script

variable {α : Type}

/-- What is seen of the end of a script. -/
def last (s : Script) : List (Happening α) := Happening.ofNotice? s.ending.notice?

/-- What is seen when a script wakes up and ends. -/
def finish (s : Script) (now : Nat) (payload : α) : List (Happening α) :=
  .woke s.label now payload :: s.last

/-- What is seen when a script begins. A sleep of no length is over at once. -/
def start (s : Script) (now : Nat) (payload : α) : List (Happening α) :=
  .called s.label now payload ::
    match s.panics, s.sleeps with
    | some cause, _ => [.noted (.callbackPanicked cause)]
    | none, none => s.last
    | none, some 0 => s.finish now payload
    | none, some _ => []

/-- How long a script sleeps, if it does. -/
def takes? (s : Script) : Option Nat :=
  match s.panics, s.sleeps with
  | none, some (n + 1) => some (n + 1)
  | _, _ => none

end Script

namespace Delivery

variable {α : Type}

/-- When a delivery that begins now goes on. -/
def wakesAt? (d : Delivery α) (now : Nat) (payload : α) : Option Nat :=
  (d.takes? now payload).map (now + ·)

/-- What is seen of a moment. -/
def seen (d : Delivery α) : DeliveryMoment α → List (Happening α)
  | .begun time payload => d.start time payload
  | .ended time payload => d.finish time payload

/-- Each payload is delivered to a script of its own. -/
def ofScripts (script : α → Script) : Delivery α :=
  ⟨fun now p => (script p).start now p, fun _ p => (script p).takes?,
    fun now p => (script p).finish now p⟩

end Delivery

/-- What a trigger runs. -/
inductive Callback where
  | script (script : Script)
  /-- Log the change. -/
  | logState

namespace Callback

/-- The line of the logger; a missing state is `<none>`. -/
def changeNotice (change : StateChange) : Notice :=
  let value (side : Option State) : String := (side.map State.value).getD "<none>"
  .stateChanged change.entityId.text (value change.old) (value change.new)

/-- What a callback does with events. -/
def delivery : Callback → Delivery (Event StateChange)
  | .script s => .ofScripts fun _ => s
  | .logState => ⟨fun _ e => [.noted (changeNotice e.data)], fun _ _ => none, fun _ _ => []⟩

/-- The number of the handler that a callback detaches. -/
def detaches? : Callback → Option Nat
  | .script s => s.detaches
  | .logState => none

end Callback

end HubAutomation
