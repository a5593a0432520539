import HubAutomation.Trigger.Debounced
import HubAutomation.Trigger.Handler

/-!
# A handler on a clock

One handler that is shown events as time passes.

- `Watch`: the rules of the handler and its debounced calls.
- `Watch.observe`: show it an event.
- `Watch.actAll`: a run.
-/

namespace HubAutomation

/-- A handler on a clock. -/
structure Watch where
  rules : RuleSet
  callback : Callback
  calls : Debounced (Event StateChange)

namespace Watch

/-- A handler that has seen nothing yet. -/
def ofHandler (h : TriggerHandler) : Watch :=
  ⟨h.rules, h.callback, .new h.timeout h.callback.delivery⟩

/-- The handler as it is now. -/
def handler (w : Watch) : TriggerHandler := ⟨w.rules, w.callback, w.calls.debouncer⟩

def verdict (w : Watch) (change : StateChange) : Verdict :=
  w.rules.judge w.calls.debouncer.timeout change

/-- Show an event to the handler. A contradiction is an error, and changes
nothing. -/
def observe (w : Watch) (event : Event StateChange) : Except TriggerError Watch :=
  match w.verdict event.data with
  | .contradiction => .error (.contradiction event.data.entityId)
  | .qualifies => .ok { w with calls := w.calls.cancel.2.call event }
  | .cancels => .ok { w with calls := w.calls.cancel.2 }
  | .nothing => .ok w

/-- Give up the call that waits, and say whether there was one. -/
def cancel (w : Watch) : Bool × Watch := (w.calls.cancel.1, { w with calls := w.calls.cancel.2 })

/-- Move the clock by some milliseconds. -/
def advance (w : Watch) (milliseconds : Nat) : Watch :=
  { w with calls := w.calls.advance milliseconds }

/-! ### Runs -/

/-- What can be done with a handler. -/
inductive Act where
  | event (event : Event StateChange)
  | cancel
  | advance (milliseconds : Nat)

/-- After an error the handler is as it was. -/
def act (w : Watch) : Act → Watch
  | .event event =>
    match w.observe event with
    | .ok w' => w'
    | .error _ => w
  | .cancel => w.cancel.2
  | .advance milliseconds => w.advance milliseconds

/-- One thing after another. -/
def actAll (w : Watch) (acts : List Act) : Watch := acts.foldl act w

end Watch

end HubAutomation
