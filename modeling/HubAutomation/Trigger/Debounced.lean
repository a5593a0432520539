import HubAutomation.Timeline
import HubAutomation.Trigger.Callback
import HubAutomation.Trigger.Debouncer

/-!
# Debounced deliveries

A debouncer on a clock, with the deliveries that come of its windows. A window
that ends starts a delivery, which may take time. Windows of calls that were
replaced or withdrawn end as well, and nothing comes of them.

- `Debounced α`: the debouncer, its clock, and the moments of its deliveries.
- `Debounced.call`, `Debounced.cancel`, `Debounced.advance`: what can be done.
- `Debounced.seen`: what is seen of the deliveries.
- `Debounced.actAll`: a run.
-/

namespace HubAutomation

/-- What an alarm of a timer stands for. -/
inductive DebounceAlarm (α : Type) where
  /-- The end of its window. -/
  | window (timer : Nat)
  /-- The delivery that it started goes on. -/
  | delivery (timer : Nat) (payload : α)

namespace DebounceAlarm

/-- How many alarms can come of an alarm, itself among them. -/
def work {α : Type} : DebounceAlarm α → Nat
  | .window _ => 2
  | .delivery _ _ => 1

end DebounceAlarm

/-- A debouncer on a clock. -/
structure Debounced (α : Type) where
  timeline : Timeline (DebounceAlarm α)
  debouncer : Debouncer α
  delivery : Delivery α
  /-- The moments of the deliveries so far, the oldest first. -/
  moments : List (DeliveryMoment α)

namespace Debounced

variable {α : Type}

def new (timeout : Nat) (delivery : Delivery α) : Debounced α :=
  ⟨.start, .new timeout, delivery, []⟩

def now (d : Debounced α) : Nat := d.timeline.now

/-- What was seen so far, the oldest first. -/
def seen (d : Debounced α) : List (Happening α) := d.moments.flatMap d.delivery.seen

/-- A delivery begins now. -/
def begin (d : Debounced α) (payload : α) : Debounced α :=
  { d with moments := d.moments ++ [.begun d.now payload] }

/-- A delivery that waited ends now. -/
def finish (d : Debounced α) (payload : α) : Debounced α :=
  { d with moments := d.moments ++ [.ended d.now payload] }

/-- A timer starts a delivery, and waits for it if it takes time. -/
def deliver (d : Debounced α) (timer : Nat) (payload : α) : Debounced α :=
  let d' := d.begin payload
  match d.delivery.wakesAt? d.now payload with
  | some due => { d' with timeline := d'.timeline.arm due (.delivery timer payload) }
  | none => d'

/-- Start a delivery, and let the time pass that it takes. -/
def deliverNow (d : Debounced α) (payload : α) : Debounced α :=
  let d' := d.begin payload
  match d.delivery.wakesAt? d.now payload with
  | some due => { d' with timeline := d'.timeline.moveTo due }.finish payload
  | none => d'

/-- Hand over a payload. -/
def call (d : Debounced α) (payload : α) : Debounced α :=
  match d.debouncer.call d.now payload with
  | (debouncer, .deliver payload) => { d with debouncer }.deliverNow payload
  | (debouncer, .window due timer) =>
    { d with debouncer, timeline := d.timeline.arm due (.window timer) }

/-- Give up the payload that waits, and say whether there was one. -/
def cancel (d : Debounced α) : Bool × Debounced α :=
  (d.debouncer.cancel.1, { d with debouncer := d.debouncer.cancel.2 })

/-- To drop a debouncer is to cancel it. -/
def drop (d : Debounced α) : Debounced α := d.cancel.2

/-- An alarm goes off. -/
def fire (d : Debounced α) : DebounceAlarm α → Debounced α
  | .window timer =>
    match d.debouncer.wake timer with
    | some (payload, debouncer) => { d with debouncer }.deliver timer payload
    | none => d
  | .delivery timer payload => if d.debouncer.runs timer then d.finish payload else d

/-- The number of alarms that can still go off. -/
def work (d : Debounced α) : Nat := d.timeline.alarms.foldr (fun a n => a.wakes.work + n) 0

/-- Let the alarms go off that are due by `limit`, at most `fuel` of them. -/
def fireUpTo (limit : Nat) : (fuel : Nat) → Debounced α → Debounced α
  | 0, d => d
  | fuel + 1, d =>
    match d.timeline.take? limit with
    | some (alarm, timeline) => fireUpTo limit fuel ({ d with timeline }.fire alarm)
    | none => d

/-- Move the clock by some milliseconds. -/
def advance (d : Debounced α) (milliseconds : Nat) : Debounced α :=
  let limit := d.timeline.target milliseconds
  let d' := fireUpTo limit d.work d
  { d' with timeline := d'.timeline.moveTo limit }

/-! ### Runs -/

/-- What can be done with a debouncer. -/
inductive Act (α : Type) where
  | call (payload : α)
  | cancel
  | drop
  | advance (milliseconds : Nat)

def act (d : Debounced α) : Act α → Debounced α
  | .call payload => d.call payload
  | .cancel => d.cancel.2
  | .drop => d.drop
  | .advance milliseconds => d.advance milliseconds

/-- One thing after another. -/
def actAll (d : Debounced α) (acts : List (Act α)) : Debounced α := acts.foldl act d

end Debounced

end HubAutomation
