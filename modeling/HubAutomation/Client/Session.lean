import HubAutomation.Client.Call

/-!
# Sessions

A session runs the callers and the writing side of a connection one at a time,
each as far as it gets, in the order in which they got what they wait for. It
keeps the listeners that come of calls.

- `Session`: the connection, the tasks that can go on, and the listeners.
- `Session.settle`: let all tasks run until none can go on.
- `Session.call`, `Session.deliver`: a call, and messages of the hub.
- `Session.receive`: the next event of a listener.
-/

namespace HubAutomation

/-- What can go on. -/
inductive Task where
  | caller (number : Nat)
  | writer
deriving DecidableEq

/-- A listener that came of a call. -/
structure Listener where
  /-- The number of the call. -/
  call : Nat
  kind : ListenerKind
  receiver : Receiver
  /-- Whether it still listens. -/
  attached : Bool
  /-- The events that were given to its callback, the oldest first. -/
  called : List (Event Json)

/-- A connection whose tasks run one at a time. -/
structure Session where
  connection : Connection
  /-- The tasks that can go on, in the order in which they could. -/
  tasks : List Task
  /-- All calls; the caller of a call has the call's number. -/
  calls : List Call
  listeners : List Listener

namespace Session

/-- A session right after the handshake. -/
def start (capacity : Nat) (broken : Option String) : Session :=
  ⟨.start capacity broken, [], [], []⟩

/-! ### Tasks -/

/-- Whether a task can go on. -/
def canRun (s : Session) : Task → Bool
  | .caller n => s.connection.canRun n
  | .writer => s.connection.canWrite

/-- All tasks. Callers that have a place in the queue come first, in the order in
which they got it. -/
def allTasks (s : Session) : List Task :=
  let callers := s.connection.outbox.granted ++ List.range s.connection.callers.length
  callers.eraseDups.map .caller ++ [.writer]

/-- Line up the tasks that can go on and are not in line yet. -/
def wake (s : Session) : Session :=
  { s with tasks := s.tasks ++ s.allTasks.filter fun t => s.canRun t && !s.tasks.contains t }

/-- A caller goes on while it can, at most `fuel` times. -/
def runCaller (n : Nat) : (fuel : Nat) → Connection → Connection
  | 0, c => c
  | fuel + 1, c => if c.canRun n then runCaller n fuel (c.run n) else c

/-- Write while there is something to write, at most `fuel` times. -/
def writeAll : (fuel : Nat) → Connection → Connection
  | 0, c => c
  | fuel + 1, c => if c.canWrite then writeAll fuel c.write else c

/-- A task runs as far as it gets. The writing side takes two turns for each
message, and three to finish what it has begun and stop. -/
def runTask (s : Session) : Task → Session
  | .caller n =>
    let turns := (s.connection.callers[n]?.map CallerState.turns).getD 0
    { s with connection := runCaller n turns s.connection }
  | .writer =>
    { s with connection := writeAll (2 * s.connection.outbox.messages.length + 3) s.connection }

/-- Run tasks until none can go on, at most `fuel` of them. -/
def runTasks : (fuel : Nat) → Session → Session
  | 0, s => s
  | fuel + 1, s =>
    let s := s.wake
    match s.tasks with
    | [] => s
    | t :: rest => runTasks fuel ({ s with tasks := rest }.runTask t)

/-- How often tasks can still run. A caller's turn counts twice, since it may
put a message into the queue. -/
def work (s : Session) : Nat :=
  2 * s.connection.callers.foldr (fun caller n => caller.turns + n) 0 +
    s.connection.outbox.messages.length + (if s.connection.writer.isStopped then 0 else 1)

/-! ### Listeners -/

/-- What the connection said to a call, once it has. -/
def result? (s : Session) (call : Nat) : Option (ClientResult CallValue) :=
  match s.connection.callers[call]? with
  | some (.done result) => some result
  | _ => none

/-- The answer to a call, once it is there. -/
def answer? (s : Session) (stamp : Stamp) (call : Nat) : Option (ClientResult CallAnswer) := do
  let c ← s.calls[call]?
  let result ← s.result? call
  return c.answer stamp result

/-- The listener that a call gave, if it is new. -/
def newListener? (s : Session) (call : Nat) : Option Listener :=
  match s.calls[call]?, s.result? call with
  | some (.listen kind _), some (.ok (.listener _ receiver)) =>
    if s.listeners.any fun l => l.call = call then none else some ⟨call, kind, receiver, true, []⟩
  | _, _ => none

/-- Give a callback all events that are there. -/
def feed (subscriptions : Subscriptions) : (fuel : Nat) → Listener → Listener
  | 0, l => l
  | fuel + 1, l =>
    match subscriptions.receiveKept l.receiver with
    | (.event event, receiver) =>
      feed subscriptions fuel { l with receiver, called := l.called ++ [event] }
    | (.ended, receiver) => { l with receiver, attached := false }
    | (_, receiver) => { l with receiver }

/-- Give a listener what it takes by itself. -/
def feedListener (subscriptions : Subscriptions) (l : Listener) : Listener :=
  if l.kind = .callback && l.attached then
    feed subscriptions ((subscriptions.channelOf l.receiver).events.length + 1) l
  else l

/-- Note the new listeners, and give all callbacks their events. -/
def feedListeners (s : Session) : Session :=
  let listeners := s.listeners ++ (List.range s.calls.length).filterMap s.newListener?
  { s with listeners := listeners.map (feedListener s.connection.subscriptions) }

/-- Let all tasks run until none can go on. -/
def settle (s : Session) : Session := (runTasks s.work s).feedListeners

/-! ### What can be done -/

/-- A call begins; it runs when the session settles. -/
def call (s : Session) (call : Call) : Session :=
  { s with connection := s.connection.act (.call call.request), calls := s.calls ++ [call] }

/-- An action of the surroundings, and all that comes of it. -/
def act (s : Session) (action : Connection.Action) : Session :=
  { s with connection := s.connection.act action }.settle

/-- The hub sends messages, each of which has its effect before the next one. -/
def deliver (s : Session) (stamp : Stamp) (items : List Incoming) : Session :=
  items.foldl (fun s item => s.act (.receive stamp item)) s

def listener? (s : Session) (call : Nat) : Option Listener :=
  s.listeners.find? fun l => l.call = call

/-- Change the listener of a call. -/
def setListener (s : Session) (l : Listener) : Session :=
  { s with listeners := s.listeners.map fun m => if m.call = l.call then l else m }

/-- The next event of a listener. -/
def receive (s : Session) (l : Listener) : Received Json × Session :=
  let (received, receiver) := s.connection.subscriptions.receiveKept l.receiver
  (received, s.setListener { l with receiver })

/-- The next state change of a listener. -/
def receiveChange (s : Session) (stamp : Stamp) (l : Listener) : Received StateChange × Session :=
  let (received, receiver) := s.connection.subscriptions.receiveChange stamp l.receiver
  (received, s.setListener { l with receiver })

/-- A listener listens no longer. -/
def detach (s : Session) (l : Listener) : Session :=
  { s with
    connection :=
      { s.connection with subscriptions := s.connection.subscriptions.drop l.receiver } }.setListener
    { l with attached := false }

end Session

end HubAutomation
