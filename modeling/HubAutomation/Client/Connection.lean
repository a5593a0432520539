import HubAutomation.Client.Handshake
import HubAutomation.Client.PendingCommands
import HubAutomation.Client.Subscriptions

/-!
# Connections

An open connection with its callers, as one value. Callers ask for something,
wait for a place in the outgoing queue, for the hub, or for the lock on
subscriptions, and go on when what they wait for is there. One side writes what
stands in the queue, another reads what the hub sends. Nothing here says who
goes on next: a run of a connection is any list of actions, and each action
leads from one wait to the next.

- `Request`, `CallerState`: what callers ask for, and how far they are.
- `Writer`: how far the writing side is.
- `Connection`: the whole state.
- `Connection.Action`, `Connection.act`: what can happen, and what comes of it.
-/

namespace HubAutomation

/-- What a caller asks for. -/
inductive Request where
  | command (command : Command)
  /-- A receiver of the events of a type. -/
  | listen (eventType : String)
  /-- The end of the subscription of a type. -/
  | unlisten (eventType : String)
  /-- The end of the connection. -/
  | close
  /-- The number of commands that wait. -/
  | countPending
  /-- Nothing: the caller needs neither the connection nor the hub. -/
  | nothing

/-- What a caller gets. -/
inductive CallValue where
  | json (value : Json)
  | listener (eventType : String) (receiver : Receiver)
  | count (commands : Nat)

/-- What a command is for. -/
inductive Purpose where
  | plain
  | subscribe (eventType : String) (receiver : Receiver)
  | unsubscribe

namespace Purpose

/-- What the caller of a command gets, by how the command ended. That the hub
has a subscription already is no error. -/
def answer : Purpose → ClientResult Json → ClientResult CallValue
  | .plain, outcome => outcome.map .json
  | .unsubscribe, _ => .ok (.json .null)
  | .subscribe eventType receiver, .ok _ => .ok (.listener eventType receiver)
  | .subscribe eventType receiver, .error e =>
    if e.isAlreadySubscribed then .ok (.listener eventType receiver) else .error e

/-- The events of a subscription go to its type's stream from the moment at
which its id is known. -/
def route : Purpose → Nat → Subscriptions → Subscriptions
  | .subscribe eventType _, id, s => s.route id eventType
  | _, _, s => s

/-- A refused subscription has no route. -/
def unrouteRefused : Purpose → Nat → ClientResult Json → Subscriptions → Subscriptions
  | .subscribe _ _, id, .error _, s => s.unroute id
  | _, _, _, s => s

/-- Record how a subscription ended, if the command was for one. Nobody reads
on a stream that was opened for nothing. -/
def record : Purpose → ClientResult Nat → Subscriptions → Subscriptions
  | .subscribe eventType receiver, outcome, s =>
    match s.record eventType outcome with
    | (s, .ok _) => s
    | (s, .error _) => s.drop receiver
  | _, _, s => s

end Purpose

/-- What the lock on subscriptions is for. -/
inductive LockPurpose where
  | listen (eventType : String) (receiver : Receiver)
  | unlisten (eventType : String)

/-- How far a caller is. -/
inductive CallerState where
  | ready (request : Request)
  /-- It waits for the lock. -/
  | locking (purpose : LockPurpose)
  /-- It waits for a place in the queue. -/
  | sending (id : Nat) (command : Command) (purpose : Purpose)
  /-- It waits for a place in the queue, to close the connection. -/
  | closing
  /-- It waits for the hub. -/
  | awaiting (id : Nat) (purpose : Purpose)
  | done (result : ClientResult CallValue)

namespace CallerState

def isDone : CallerState → Bool
  | .done _ => true
  | _ => false

/-- How many times a caller can still go on. -/
def turns : CallerState → Nat
  | .ready _ => 4
  | .locking _ => 3
  | .sending _ _ _ => 2
  | .closing => 1
  | .awaiting _ _ => 1
  | .done _ => 0

end CallerState

/-- A lock that is handed on in the order in which it was asked for. -/
structure Lock where
  holder : Option Nat
  queue : List Nat

namespace Lock

def free : Lock := ⟨none, []⟩

/-- Ask for the lock. -/
def acquire (l : Lock) (caller : Nat) : Lock :=
  match l.holder with
  | none => { l with holder := some caller }
  | some _ => { l with queue := l.queue ++ [caller] }

/-- Hand the lock on. -/
def release (l : Lock) : Lock := ⟨l.queue.head?, l.queue.tail⟩

/-- A command for a subscription is sent under the lock. -/
def releaseAfter (l : Lock) : Purpose → Lock
  | .subscribe _ _ => l.release
  | .plain | .unsubscribe => l

end Lock

/-- The outgoing queue. It has a number of places. Callers that find none wait,
and a place that gets free goes to the one that has waited longest. Callers with a
place use it when they go on, and these may go on in any order. -/
structure Outbox where
  messages : List Outgoing
  /-- The callers to whom a place was given that they have not used yet, in the
  order in which they got it. -/
  granted : List Nat
  /-- The callers that wait for a place. -/
  waiting : List Nat

namespace Outbox

def places : Nat := 256

def empty : Outbox := ⟨[], [], []⟩

def put (o : Outbox) (message : Outgoing) : Outbox := { o with messages := o.messages ++ [message] }

/-- Give the free places to those who wait. -/
def grant (o : Outbox) : Outbox :=
  let free := places - (o.messages.length + o.granted.length)
  { o with granted := o.granted ++ o.waiting.take free, waiting := o.waiting.drop free }

/-- A caller begins to wait for a place. -/
def wait (o : Outbox) (caller : Nat) : Outbox :=
  { o with waiting := o.waiting ++ [caller] }.grant

/-- Whether a caller has a place for its message. -/
def hasPlace (o : Outbox) (caller : Nat) : Bool := o.granted.contains caller

/-- A caller uses its place. -/
def use (o : Outbox) (caller : Nat) (message : Outgoing) : Outbox :=
  { o with granted := o.granted.erase caller }.put message

/-- Take the next message. Its place goes to the caller that waited longest. -/
def take? (o : Outbox) : Option (Outgoing × Outbox) :=
  match o.messages with
  | [] => none
  | m :: rest => some (m, { o with messages := rest }.grant)

end Outbox

/-- How far the writing side is. -/
inductive Writer where
  /-- It waits for a message. -/
  | idle
  /-- It has taken a message out of the queue and writes it. -/
  | busy (message : Outgoing)
  /-- It writes no more messages and says so. -/
  | closing
  | stopped

namespace Writer

def isStopped : Writer → Bool
  | .stopped => true
  | _ => false

/-- What follows when a message was written: nothing comes after a farewell. -/
def after : Outgoing → Writer
  | .close => .closing
  | .command _ _ => .idle

end Writer

/-- An open connection with its callers. -/
structure Connection where
  /-- Whether the connection has not been shut down. -/
  connected : Bool
  commands : PendingCommands
  /-- Outcomes that their callers have not taken yet. -/
  outcomes : List (Nat × ClientResult Json)
  subscriptions : Subscriptions
  lock : Lock
  outbox : Outbox
  /-- All callers that there ever were, by number. -/
  callers : List CallerState
  /-- Whether the reading side runs. -/
  reading : Bool
  writer : Writer
  /-- Whether someone besides the callers holds the client. -/
  held : Bool
  /-- If it is given, writing fails with this text. -/
  broken : Option String
  /-- What was written, the oldest first. -/
  written : List Written

namespace Connection

/-- A connection right after the handshake. -/
def start (capacity : Nat) (broken : Option String) : Connection where
  connected := true
  commands := .empty
  outcomes := []
  subscriptions := .new capacity
  lock := .free
  outbox := .empty
  callers := []
  reading := true
  writer := .idle
  held := true
  broken
  written := []

/-- Whether anyone holds the client. Callers do until they are done. -/
def isHeld (c : Connection) : Bool := c.held || c.callers.any fun s => !s.isDone

/-- Give the outcomes of completions to their callers. -/
def deliver (c : Connection) (r : PendingCommands × List Completion) : Connection :=
  { c with
    commands := r.1
    outcomes := c.outcomes ++ r.2.filterMap fun p => p.outcome.map fun outcome => (p.id, outcome) }

/-- The connection is down: no command waits any longer, and all streams end. -/
def shutDown (c : Connection) (reason : String) : Connection :=
  let c := c.deliver (c.commands.failAll reason)
  { c with connected := false, subscriptions := c.subscriptions.close }

/-- Nobody may hold the client any longer: then nothing is read, and all streams
end. -/
def letGo (c : Connection) : Connection :=
  { c with
    reading := c.reading && c.isHeld
    subscriptions := if c.isHeld then c.subscriptions else c.subscriptions.close }

/-! ### Callers -/

def setCaller (c : Connection) (n : Nat) (s : CallerState) : Connection :=
  { c with callers := c.callers.set n s }

def finish (c : Connection) (n : Nat) (result : ClientResult CallValue) : Connection :=
  (c.setCaller n (.done result)).letGo

/-- Nothing is left to say. -/
def finishPlain (c : Connection) (n : Nat) : Connection := c.finish n (.ok (.json .null))

def unlock (c : Connection) : Connection := { c with lock := c.lock.release }

/-- A caller knows how its command ended, and the id of the command if it went
well. -/
def conclude (c : Connection) (n : Nat) (purpose : Purpose) (outcome : ClientResult (Nat × Json)) :
    Connection :=
  { c with
    subscriptions := purpose.record (outcome.map Prod.fst) c.subscriptions
    lock := c.lock.releaseAfter purpose }.finish n (purpose.answer (outcome.map Prod.snd))

/-- A command fails before the hub has seen it. -/
def lose (c : Connection) (n : Nat) (purpose : Purpose) (reason : String) : Connection :=
  c.conclude n purpose (.error (.connectionLost reason))

/-- A caller takes the outcome of its command, if it is there. -/
def collect (c : Connection) (n id : Nat) (purpose : Purpose) : Connection :=
  match c.outcomes.find? fun o => o.1 = id with
  | none => c
  | some (_, outcome) =>
    { c with
      outcomes := c.outcomes.filter fun o => o.1 ≠ id
      subscriptions := purpose.unrouteRefused id outcome c.subscriptions }.conclude n purpose
        (outcome.map fun value => (id, value))

/-- A command gets the next id, and its caller waits for a place in the queue. -/
def issue (c : Connection) (n : Nat) (command : Command) (purpose : Purpose) : Connection :=
  { c with
    commands := c.commands.register
    subscriptions := purpose.route c.commands.nextId c.subscriptions
    outbox := c.outbox.wait n }.setCaller n (.sending c.commands.nextId command purpose)

/-- A caller sends a command. -/
def startCommand (c : Connection) (n : Nat) (command : Command) (purpose : Purpose) : Connection :=
  if c.connected then c.issue n command purpose else c.lose n purpose "client is closed"

/-- The type that a subscription names; for all events it names none. -/
def wireType (eventType : String) : Option String :=
  if eventType = matchAll then none else some eventType

/-- A caller has the lock. -/
def locked (c : Connection) (n : Nat) : LockPurpose → Connection
  | .listen eventType receiver =>
    -- A subscription that is recorded is not asked for again, connected or not.
    if c.subscriptions.isSubscribed eventType then
      c.unlock.finish n (.ok (.listener eventType receiver))
    else c.startCommand n (.subscribeEvents (wireType eventType)) (.subscribe eventType receiver)
  | .unlisten eventType =>
    match c.subscriptions.take eventType with
    | none => c.unlock.finishPlain n
    | some (subscriptions, handle) =>
      -- The lock is free again before the hub is told.
      let c := { c with subscriptions }.unlock
      match handle with
      | none => c.finishPlain n
      | some id => c.startCommand n (.unsubscribeEvents id) .unsubscribe

/-- A caller asks for the lock. -/
def askLock (c : Connection) (n : Nat) (purpose : LockPurpose) : Connection :=
  { c with lock := c.lock.acquire n }.setCaller n (.locking purpose)

/-- The farewell is in the queue, or cannot get there any more. -/
def closed (c : Connection) (n : Nat) : Connection :=
  { c.shutDown "closed by client" with reading := false }.finishPlain n

/-- A caller begins. -/
def begin (c : Connection) (n : Nat) : Request → Connection
  | .command command => c.startCommand n command .plain
  | .listen eventType =>
    -- The receiver comes first, so that it misses nothing behind the hub's answer.
    let (subscriptions, receiver) := c.subscriptions.stream eventType
    { c with subscriptions }.askLock n (.listen eventType receiver)
  | .unlisten eventType => c.askLock n (.unlisten eventType)
  | .close =>
    if c.connected then { c with outbox := c.outbox.wait n }.setCaller n .closing
    else c.finishPlain n
  | .countPending => c.finish n (.ok (.count c.commands.size))
  | .nothing => c.finishPlain n

/-- A caller goes on to its next wait, if what it waits for is there. -/
def run (c : Connection) (n : Nat) : Connection :=
  match c.callers[n]? with
  | none => c
  | some s =>
    match s with
    | .ready request => c.begin n request
    | .locking purpose => if c.lock.holder = some n then c.locked n purpose else c
    | .sending id command purpose =>
      if c.writer.isStopped then
        { c with commands := (c.commands.forget id).1 }.lose n purpose "writer task has stopped"
      else if c.outbox.hasPlace n then
        { c with outbox := c.outbox.use n (.command id command) }.setCaller n (.awaiting id purpose)
      else c
    | .closing =>
      if c.writer.isStopped then c.closed n
      else if c.outbox.hasPlace n then { c with outbox := c.outbox.use n .close }.closed n
      else c
    | .awaiting id purpose => c.collect n id purpose
    | .done _ => c

/-- Whether a caller has what it waits for. -/
def canRun (c : Connection) (n : Nat) : Bool :=
  match c.callers[n]? with
  | none => false
  | some s =>
    match s with
    | .ready _ => true
    | .locking _ => c.lock.holder = some n
    | .sending _ _ _ | .closing => c.writer.isStopped || c.outbox.hasPlace n
    | .awaiting id _ => c.outcomes.any fun o => o.1 = id
    | .done _ => false

/-! ### Writing and reading -/

/-- The writing side stops. That the connection is closed can be written only if
anything can. -/
def stopWriting (c : Connection) : Connection :=
  { c with
    writer := .stopped
    outbox := { c.outbox with messages := [] }
    written := c.written ++ (if c.broken.isNone then [.closed] else []) }

/-- A message cannot be written. -/
def failWriting (c : Connection) (fault : String) : Connection :=
  let c := if c.isHeld then c.shutDown ("failed to write frame: " ++ transportFault fault) else c
  { c with writer := .closing }

/-- The writing side goes on to its next wait. With nothing to write, it stops
once the connection is down or nobody holds the client. -/
def write (c : Connection) : Connection :=
  match c.writer with
  | .idle =>
    match c.outbox.take? with
    | some (message, outbox) => { c with writer := .busy message, outbox }
    | none => if c.connected && c.isHeld then c else { c with writer := .closing }
  | .busy message =>
    match c.broken with
    | some fault => c.failWriting fault
    | none => { c with writer := .after message, written := c.written ++ [message.written] }
  | .closing => c.stopWriting
  | .stopped => c

/-- Whether the writing side has something to do. -/
def canWrite (c : Connection) : Bool :=
  match c.writer with
  | .idle => !c.outbox.messages.isEmpty || !(c.connected && c.isHeld)
  | .busy _ | .closing => true
  | .stopped => false

/-- A frame of the hub arrives. -/
def handle (c : Connection) : Frame → Connection
  | .result frame => c.deliver (c.commands.resolve frame)
  | .pong id => c.deliver (c.commands.resolvePong id)
  | .event frame => { c with subscriptions := c.subscriptions.dispatch frame.id frame.event }
  | .authRequired _ | .authOk _ | .authInvalid _ | .unknown => c

/-- The reading side stops. -/
def stopReading (c : Connection) (reason : String) : Connection :=
  { c.shutDown reason with reading := false }

/-- A message of the hub arrives. Text that is no frame is passed over. -/
def receive (c : Connection) (stamp : Stamp) (item : Incoming) : Connection :=
  if !c.reading then c
  else
    match item with
    | .text text =>
      match Frame.decode stamp text with
      | .ok frame => c.handle frame
      | .error _ => c
    | .binary | .ping => c
    | .close frame => c.stopReading ("hub closed the connection: " ++ CloseFrame.describe frame)
    | .fault text => c.stopReading ("websocket error: " ++ transportFault text)
    | .ended => c.stopReading "websocket stream ended"

/-! ### Runs -/

/-- What can happen to a connection. -/
inductive Action where
  /-- A new caller comes, if there is someone to have the client from. -/
  | call (request : Request)
  /-- A caller goes on. -/
  | run (caller : Nat)
  /-- The writing side goes on. -/
  | write
  | receive (stamp : Stamp) (item : Incoming)
  /-- Whoever made the client lets go of it. -/
  | release
  /-- From now on writing fails. -/
  | breakWrites (fault : String)

/-- What comes of an action. -/
def act (c : Connection) : Action → Connection
  | .call request => if c.isHeld then { c with callers := c.callers ++ [.ready request] } else c
  | .run n => c.run n
  | .write => c.write
  | .receive stamp item => c.receive stamp item
  | .release => { c with held := false }.letGo
  | .breakWrites fault => { c with broken := some fault }

/-- What comes of some actions, one after another. -/
def actAll (c : Connection) (actions : List Action) : Connection := actions.foldl act c

end Connection

end HubAutomation
