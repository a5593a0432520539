import HubAutomation.Automations
import HubAutomation.Client.Session

/-!
# Running automations

A run subscribes to state changes and dispatches them to the automations, one
after another, until the stream of events ends. While a callback holds up a
dispatch, events wait in their channel.

- `Run`: how far a run is. `RunSummary`: what it counted.
- `Runner`: a run with its session and its automations.
- `Runner.resume`: let the run go on as far as it gets.
- `Runner.advance`, `Runner.deliver`, `Runner.call`: what can be done.
-/

namespace HubAutomation

/-- What a run counted. -/
structure RunSummary where
  /-- The dispatched events. -/
  events : Nat
  /-- The handlers whose rules contradicted each other. -/
  failures : Nat

namespace RunSummary

def empty : RunSummary := ⟨0, 0⟩

/-- One more event was dispatched. -/
def add (s : RunSummary) (report : DispatchReport) : RunSummary :=
  ⟨s.events + 1, s.failures + report.failed.length⟩

end RunSummary

/-- How far a run is. -/
inductive Run where
  /-- It waits for the answer to its call for events. -/
  | subscribing
  /-- It waits for the next event. -/
  | feeding (summary : RunSummary)
  /-- It waits for a dispatch. -/
  | dispatching (summary : RunSummary)
  | over (result : ClientResult RunSummary)

/-- A run with its session and its automations. -/
structure Runner where
  session : Session
  automations : Automations
  /-- The number of the call for events. -/
  call : Nat
  run : Run

namespace Runner

def dispatcher (r : Runner) : Dispatcher := r.automations.dispatcher

def setDispatcher (r : Runner) (dispatcher : Dispatcher) : Runner :=
  { r with automations := { r.automations with dispatcher } }

/-- How the run ended, once it has. -/
def result? (r : Runner) : Option (ClientResult RunSummary) :=
  match r.run with
  | .over result => some result
  | _ => none

/-- The run takes one step, if it can. -/
def step? (stamp : Stamp) (r : Runner) : Option Runner :=
  match r.run with
  | .subscribing =>
    match r.session.result? r.call with
    | some (.error e) => some { r with run := .over (.error e) }
    | some (.ok _) => some { r with run := .feeding .empty }
    | none => none
  | .feeding summary =>
    match r.session.listener? r.call with
    | none => none
    | some listener =>
      match r.session.receiveChange stamp listener with
      | (.event change, session) =>
        let r := { r with session, run := .dispatching summary }
        some (r.setDispatcher (r.dispatcher.begin .run change))
      | (.ended, session) => some { r with session, run := .over (.ok summary) }
      | _ => none
  | .dispatching summary =>
    (r.dispatcher.takeReport? .run).map fun (report, dispatcher) =>
      { r with run := .feeding (summary.add report) }.setDispatcher dispatcher
  | .over _ => none

/-- Let the run go on, at most `fuel` steps. -/
def steps (stamp : Stamp) : (fuel : Nat) → Runner → Runner
  | 0, r => r
  | fuel + 1, r =>
    match r.step? stamp with
    | some r => steps stamp fuel r
    | none => r

/-- The number of events that the run has not read. -/
def unread (r : Runner) : Nat :=
  match r.session.listener? r.call with
  | some l => (r.session.connection.subscriptions.channelOf l.receiver).events.length - l.receiver.next
  | none => 0

/-- Let the run go on as far as it gets: each event takes two steps, and the
beginning and the end take one each. -/
def resume (stamp : Stamp) (r : Runner) : Runner := steps stamp (2 * r.unread + 4) r

/-- A run on a connection whose handshake is done. -/
def start (stamp : Stamp) (session : Session) (automations : Automations) : Runner :=
  let call := session.calls.length
  resume stamp ⟨(session.call (.listen .typed stateChanged)).settle, automations, call, .subscribing⟩

/-! ### What can be done -/

/-- A call of the client. -/
def callClient (stamp : Stamp) (r : Runner) (call : Call) : Runner :=
  resume stamp { r with session := (r.session.call call).settle }

/-- The hub sends messages. -/
def deliver (stamp : Stamp) (r : Runner) (items : List Incoming) : Runner :=
  items.foldl (fun r item => resume stamp { r with session := r.session.deliver stamp [item] }) r

/-- An alarm goes off, and the run goes on if it waited for that. -/
def fire (stamp : Stamp) (r : Runner) (alarm : HandlerAlarm) (timeline : Timeline HandlerAlarm) :
    Runner :=
  resume stamp (r.setDispatcher ({ r.dispatcher with timeline }.fire alarm))

/-- The number of alarms that can still go off: those of the dispatcher, and at
most two for each handler and unread event. -/
def work (r : Runner) : Nat := r.dispatcher.work + r.unread * (2 * r.dispatcher.set.size + 1)

/-- Let the alarms go off that are due by `limit`, at most `fuel` of them. -/
def fireUpTo (stamp : Stamp) (limit : Nat) : (fuel : Nat) → Runner → Runner
  | 0, r => r
  | fuel + 1, r =>
    match r.dispatcher.timeline.take? limit with
    | some (alarm, timeline) => fireUpTo stamp limit fuel (r.fire stamp alarm timeline)
    | none => r

/-- Move the clock by some milliseconds. -/
def advance (stamp : Stamp) (r : Runner) (milliseconds : Nat) : Runner :=
  let limit := r.dispatcher.timeline.target milliseconds
  let r := fireUpTo stamp limit r.work r
  r.setDispatcher { r.dispatcher with timeline := r.dispatcher.timeline.moveTo limit }

/-- Let alarms go off until the dispatch that was asked for has come to its end. -/
def fireUntilReport (stamp : Stamp) : (fuel : Nat) → Runner → Runner × DispatchReport
  | fuel, r =>
    match r.dispatcher.takeReport? .request, fuel with
    | some (report, dispatcher), _ => (r.setDispatcher dispatcher, report)
    | none, 0 => (r, .empty)
    | none, fuel + 1 =>
      match r.dispatcher.timeline.takeNext? with
      | some (alarm, timeline) => fireUntilReport stamp fuel (r.fire stamp alarm timeline)
      | none => (r, .empty)

/-- Dispatch an event besides those of the run, and let the time pass that it
takes, with all that is due by then. -/
def dispatch (stamp : Stamp) (r : Runner) (event : Event StateChange) : Runner × DispatchReport :=
  let r := r.setDispatcher (r.dispatcher.begin .request event)
  let (r, report) := fireUntilReport stamp r.work r
  (fireUpTo stamp r.dispatcher.now r.work r, report)

end Runner

end HubAutomation
