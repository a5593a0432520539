import HubAutomation.Timeline
import HubAutomation.Trigger.Handler
import HubAutomation.Trigger.HandlerSet

/-!
# Dispatching events to handlers

A dispatch shows an event to the handlers that are in the set when it begins,
one after another. A callback that takes time holds up its dispatch, unless a
window stood before it. A handler that was taken out of the set while a dispatch
still had it to come is shown the event all the same, and is dropped for good
when no dispatch has it any longer; a call that waits is dropped with it.

- `Dispatcher`: the clock, the set, and the handlers with their debouncers.
- `Dispatcher.attach`, `Dispatcher.detach`, `Dispatcher.replace`: its handlers.
- `Dispatcher.begin`: begin a dispatch. `Dispatcher.dispatch`: see it through.
- `Dispatcher.advance`: let time pass.
-/

namespace HubAutomation

/-- What came of a dispatch. -/
structure DispatchReport where
  /-- How many handlers made sense of the event. -/
  handled : Nat
  /-- The ids of those whose rules contradicted each other. -/
  failed : List Nat

namespace DispatchReport

def empty : DispatchReport := ⟨0, []⟩

/-- One more handler has seen the event. -/
def add (r : DispatchReport) (id : Nat) (failed : Bool) : DispatchReport :=
  if failed then { r with failed := r.failed ++ [id] } else { r with handled := r.handled + 1 }

end DispatchReport

/-- Who waits for a dispatch. -/
inductive DispatchOwner where
  /-- Whoever asked for it. -/
  | request
  /-- The run that feeds the hub's events to the handlers. -/
  | run
deriving DecidableEq

/-- A dispatch that a callback holds up. -/
structure Dispatch where
  owner : DispatchOwner
  event : Event StateChange
  current : Attachment
  /-- The handlers that come after the current one. -/
  rest : List Attachment
  report : DispatchReport

/-- Something that was seen of a handler. -/
structure Sighting where
  serial : Nat
  happening : Happening (Event StateChange)

/-- What an alarm stands for. -/
inductive HandlerAlarm where
  /-- The end of the window of a timer. -/
  | window (serial timer : Nat)
  /-- A callback that a timer waits for goes on. -/
  | delivery (serial timer : Nat) (callback : Callback) (event : Event StateChange)
  /-- A callback that goes on, and its dispatch with it. -/
  | turn (callback : Callback) (dispatch : Dispatch)

namespace HandlerAlarm

/-- How many alarms can come of an alarm, itself among them. -/
def work : HandlerAlarm → Nat
  | .window _ _ => 2
  | .delivery _ _ _ _ => 1
  | .turn _ dispatch => 2 * dispatch.rest.length + 1

/-- Whether an alarm keeps a handler, though it may be in no set. -/
def holds (alarm : HandlerAlarm) (serial : Nat) : Bool :=
  match alarm with
  | .turn _ dispatch =>
    dispatch.current.serial = serial || dispatch.rest.any fun a => a.serial = serial
  | _ => false

end HandlerAlarm

/-- The handlers of a set on a clock. -/
structure Dispatcher where
  timeline : Timeline HandlerAlarm
  /-- All handlers that there ever were, by their serial numbers. -/
  handlers : List TriggerHandler
  set : HandlerSet
  /-- What was seen so far, the oldest first. -/
  seen : List Sighting
  /-- The dispatches that have come to their end. -/
  reports : List (DispatchOwner × DispatchReport)

namespace Dispatcher

/-- No handlers, and a clock that shows some time. -/
def new (now : Nat) : Dispatcher := ⟨⟨now, []⟩, [], .empty, [], []⟩

def now (d : Dispatcher) : Nat := d.timeline.now

/-! ### The set -/

/-- Change a handler. -/
def modify (d : Dispatcher) (serial : Nat) (f : TriggerHandler → TriggerHandler) : Dispatcher :=
  { d with handlers := d.handlers.modify serial f }

/-- Give up the call of a handler that waits. -/
def cancel (d : Dispatcher) (serial : Nat) : Dispatcher := d.modify serial fun h => h.cancel.2

/-- Attach a handler; its id is then the last one of the set. -/
def attach (d : Dispatcher) (h : TriggerHandler) : Dispatcher :=
  { d with handlers := d.handlers ++ [h], set := d.set.attach d.handlers.length }

/-- Take a handler out, and give up its call that waits. -/
def detach (d : Dispatcher) (id : Nat) : Dispatcher :=
  match d.set.find? id with
  | some a => { d with set := d.set.detach id }.cancel a.serial
  | none => d

/-- Put another handler in the place of one, and give up the old one's call that
waits. -/
def replace (d : Dispatcher) (id : Nat) (h : TriggerHandler) : Dispatcher :=
  match d.set.find? id with
  | some a =>
    { d with handlers := d.handlers ++ [h], set := d.set.replace id d.handlers.length }.cancel
      a.serial
  | none => d

/-- Whether a handler is in the set, or a dispatch has it yet to come. -/
def holds (d : Dispatcher) (serial : Nat) : Bool :=
  d.set.holds serial || d.timeline.alarms.any fun a => a.wakes.holds serial

/-- A dispatch is done with a handler. -/
def release (d : Dispatcher) (a : Attachment) : Dispatcher :=
  if d.holds a.serial then d else d.cancel a.serial

/-! ### Deliveries -/

/-- Something is seen of a handler. -/
def see (d : Dispatcher) (serial : Nat) (happenings : List (Happening (Event StateChange))) :
    Dispatcher :=
  { d with seen := d.seen ++ happenings.map (Sighting.mk serial) }

def arm (d : Dispatcher) (due : Nat) (alarm : HandlerAlarm) : Dispatcher :=
  { d with timeline := d.timeline.arm due alarm }

/-- The callback of a handler begins. It may take a handler out of the set. -/
def start (d : Dispatcher) (serial : Nat) (callback : Callback) (event : Event StateChange) :
    Dispatcher :=
  let d := d.see serial (callback.delivery.start d.now event)
  match callback.detaches? with
  | some id => d.detach id
  | none => d

/-- The callback of a handler goes on after it took time. -/
def finish (d : Dispatcher) (serial : Nat) (callback : Callback) (event : Event StateChange) :
    Dispatcher :=
  d.see serial (callback.delivery.finish d.now event)

/-- The window of a timer has ended: the callback begins, and only the timer
waits for it. -/
def deliver (d : Dispatcher) (serial timer : Nat) (callback : Callback)
    (event : Event StateChange) : Dispatcher :=
  let d' := d.start serial callback event
  match callback.delivery.wakesAt? d.now event with
  | some due => d'.arm due (.delivery serial timer callback event)
  | none => d'

/-- Whether a timer of a handler goes on after a wait. -/
def runs (d : Dispatcher) (serial timer : Nat) : Bool :=
  d.handlers[serial]?.all fun h => h.debouncer.runs timer

/-! ### Dispatches -/

/-- Show an event to handlers one after another, until one of them has to be
waited for or there are no more. -/
def proceed (owner : DispatchOwner) (event : Event StateChange) :
    List Attachment → DispatchReport → Dispatcher → Dispatcher
  | [], report, d => { d with reports := d.reports ++ [(owner, report)] }
  | a :: rest, report, d =>
    match d.handlers[a.serial]? with
    | none => proceed owner event rest report d
    | some h =>
      let meeting := h.meet d.now event
      let d := d.modify a.serial fun _ => meeting.handler
      let report := report.add a.id meeting.failed
      match meeting.effect with
      | none => proceed owner event rest report (d.release a)
      -- A window that opens here closes at once if nobody keeps the handler.
      | some (.window due timer) =>
        proceed owner event rest report ((d.arm due (.window a.serial timer)).release a)
      | some (.deliver event) =>
        let d' := d.start a.serial h.callback event
        match h.callback.delivery.wakesAt? d.now event with
        | some due => d'.arm due (.turn h.callback ⟨owner, event, a, rest, report⟩)
        | none => proceed owner event rest report (d'.release a)

/-- Begin a dispatch to the handlers of the set. -/
def begin (d : Dispatcher) (owner : DispatchOwner) (event : Event StateChange) : Dispatcher :=
  proceed owner event d.set.attachments .empty d

/-- An alarm goes off. -/
def fire (d : Dispatcher) : HandlerAlarm → Dispatcher
  | .window serial timer =>
    match d.handlers[serial]? with
    | none => d
    | some h =>
      match h.debouncer.wake timer with
      | some (event, debouncer) =>
        (d.modify serial fun h => { h with debouncer }).deliver serial timer h.callback event
      | none => d
  | .delivery serial timer callback event =>
    if d.runs serial timer then d.finish serial callback event else d
  | .turn callback dispatch =>
    proceed dispatch.owner dispatch.event dispatch.rest dispatch.report
      ((d.finish dispatch.current.serial callback dispatch.event).release dispatch.current)

/-! ### Time -/

/-- The number of alarms that can still go off. -/
def work (d : Dispatcher) : Nat := d.timeline.alarms.foldr (fun a n => a.wakes.work + n) 0

/-- Let the alarms go off that are due by `limit`, at most `fuel` of them. -/
def fireUpTo (limit : Nat) : (fuel : Nat) → Dispatcher → Dispatcher
  | 0, d => d
  | fuel + 1, d =>
    match d.timeline.take? limit with
    | some (alarm, timeline) => fireUpTo limit fuel ({ d with timeline }.fire alarm)
    | none => d

/-- Move the clock by some milliseconds. -/
def advance (d : Dispatcher) (milliseconds : Nat) : Dispatcher :=
  let limit := d.timeline.target milliseconds
  let d' := fireUpTo limit d.work d
  { d' with timeline := d'.timeline.moveTo limit }

/-- The report of a dispatch that has come to its end, which is then forgotten. -/
def takeReport? (d : Dispatcher) (owner : DispatchOwner) : Option (DispatchReport × Dispatcher) :=
  (d.reports.find? fun r => r.1 = owner).map fun r =>
    (r.2, { d with reports := d.reports.filter fun r => r.1 ≠ owner })

/-- Let alarms go off until the dispatch that was asked for has come to its end. -/
def fireUntilReport : (fuel : Nat) → Dispatcher → Dispatcher × DispatchReport
  | fuel, d =>
    match d.takeReport? .request, fuel with
    | some (report, d), _ => (d, report)
    | none, 0 => (d, .empty)
    | none, fuel + 1 =>
      match d.timeline.takeNext? with
      | some (alarm, timeline) => fireUntilReport fuel ({ d with timeline }.fire alarm)
      | none => (d, .empty)

/-- Dispatch an event, and let the time pass that it takes, with all that is due
by then. -/
def dispatch (d : Dispatcher) (event : Event StateChange) : Dispatcher × DispatchReport :=
  let d := d.begin .request event
  let (d, report) := fireUntilReport d.work d
  (fireUpTo d.now d.work d, report)

end Dispatcher

end HubAutomation
