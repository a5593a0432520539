import HubAutomation.Client.Connection

/-!
# Steps of a connection

What one action can come to, said once. Laws about runs are proved by cases on
`Step` and `Turn`, not by opening `Connection.act` and `Connection.run` again.

- `Connection.Turn c n c'`: caller `n` goes on in `c`, and the result is `c'`.
- `Connection.Step c a c'`: action `a` is done in `c`, and the result is `c'`.
- `Connection.act_step`: every action is one of these steps.
- `Connection.Reachable`: what a connection can come to after the handshake.
- `Connection.Sometime`: what happens at some moment of a run.
- `Connection.isUp`: the connection has not been shut down, and someone holds
  the client.
-/

namespace HubAutomation

/-- Whether the writing side still takes messages out of the queue. -/
def Writer.isOn : Writer → Bool
  | .idle | .busy (.command _ _) => true
  | .busy .close | .closing | .stopped => false

namespace Connection

variable {c c' : Connection} {n : Nat}

/-! ### Runs -/

@[simp] theorem actAll_nil (c : Connection) : c.actAll [] = c := rfl

@[simp] theorem actAll_cons (c : Connection) (a : Action) (rest : List Action) :
    c.actAll (a :: rest) = (c.act a).actAll rest := rfl

theorem actAll_append (c : Connection) (before rest : List Action) :
    c.actAll (before ++ rest) = (c.actAll before).actAll rest :=
  List.foldl_append

/-- What holds at the start and is kept by every action holds after every run. -/
theorem actAll_induction {P : Connection → Prop} (keep : ∀ c a, P c → P (c.act a)) {c : Connection}
    (h : P c) (actions : List Action) : P (c.actAll actions) := by
  induction actions generalizing c with
  | nil => exact h
  | cons a rest ih => exact ih (keep c a h)

/-- A connection as it can be at some moment after the handshake. -/
def Reachable (c : Connection) : Prop :=
  ∃ capacity broken actions, c = (start capacity broken).actAll actions

/-- What is reached from a state that is reached is reached. -/
theorem Reachable.actAll (h : c.Reachable) (actions : List Action) :
    (c.actAll actions).Reachable := by
  obtain ⟨capacity, broken, before, rfl⟩ := h
  exact ⟨capacity, broken, before ++ actions, (actAll_append _ before actions).symm⟩

theorem Reachable.act (h : c.Reachable) (a : Action) : (c.act a).Reachable := h.actAll [a]

/-- What holds after the handshake and is kept by every action holds always. -/
theorem Reachable.induction {P : Connection → Prop} (h : c.Reachable)
    (init : ∀ capacity broken, P (start capacity broken))
    (keep : ∀ c a, c.Reachable → P c → P (c.act a)) : P c := by
  obtain ⟨capacity, broken, actions, rfl⟩ := h
  have both := actAll_induction (P := fun c => c.Reachable ∧ P c)
    (fun c a ⟨reachable, h⟩ => ⟨reachable.act a, keep c a reachable h⟩)
    ⟨⟨capacity, broken, [], rfl⟩, init capacity broken⟩ actions
  exact both.2

/-- At some moment of a run an action comes of which `P` holds. -/
def Sometime (P : Connection → Action → Prop) : Connection → List Action → Prop
  | _, [] => False
  | c, a :: rest => P c a ∨ Sometime P (c.act a) rest

instance decidableSometime (P : Connection → Action → Prop) [∀ c, DecidablePred (P c)] :
    ∀ (c : Connection) (actions : List Action), Decidable (Sometime P c actions)
  | _, [] => .isFalse id
  | c, a :: rest =>
    have := decidableSometime P (c.act a) rest
    inferInstanceAs (Decidable (P c a ∨ Sometime P (c.act a) rest))

/-- Nothing ever happens in a run without actions. -/
@[simp] theorem sometime_nil (P : Connection → Action → Prop) (c : Connection) :
    ¬ Sometime P c [] := id

/-- What happens sometime happens at once or in the rest of the run. -/
@[simp] theorem sometime_cons (P : Connection → Action → Prop) (c : Connection) (a : Action)
    (rest : List Action) :
    Sometime P c (a :: rest) ↔ P c a ∨ Sometime P (c.act a) rest := Iff.rfl

/-- What happens sometime happens in the first part of a run or in the second. -/
theorem sometime_append (P : Connection → Action → Prop) (c : Connection)
    (before rest : List Action) :
    Sometime P c (before ++ rest) ↔ Sometime P c before ∨ Sometime P (c.actAll before) rest := by
  induction before generalizing c with
  | nil => simp
  | cons a before ih => simp [ih, or_assoc]

/-- What happens sometime happened before the last action or with it. -/
theorem sometime_concat (P : Connection → Action → Prop) (c : Connection) (before : List Action)
    (a : Action) :
    Sometime P c (before ++ [a]) ↔ Sometime P c before ∨ P (c.actAll before) a := by
  simp [sometime_append]

/-! ### Turns -/

/-- What a turn of a caller can come to. -/
inductive Turn (c : Connection) (n : Nat) : Connection → Prop where
  | command {command : Command} (at_ : c.callers[n]? = some (.ready (.command command)))
      (connected : c.connected = true) : Turn c n (c.issue n command .plain)
  | commandLost {command : Command} (at_ : c.callers[n]? = some (.ready (.command command)))
      (down : c.connected = false) : Turn c n (c.lose n .plain "client is closed")
  | listen {eventType : String} (at_ : c.callers[n]? = some (.ready (.listen eventType))) :
      Turn c n ({ c with subscriptions := (c.subscriptions.stream eventType).1 }.askLock n
        (.listen eventType (c.subscriptions.stream eventType).2))
  | unlisten {eventType : String} (at_ : c.callers[n]? = some (.ready (.unlisten eventType))) :
      Turn c n (c.askLock n (.unlisten eventType))
  | close (at_ : c.callers[n]? = some (.ready .close)) (connected : c.connected = true) :
      Turn c n ({ c with outbox := c.outbox.wait n }.setCaller n .closing)
  | aside {request : Request} {value : CallValue} (at_ : c.callers[n]? = some (.ready request))
      (kind : (request = .close ∨ request = .nothing) ∧ value = .json .null ∨
        request = .countPending ∧ value = .count c.commands.size) :
      Turn c n (c.finish n (.ok value))
  /-- The subscription is there already. -/
  | join {eventType : String} {receiver : Receiver}
      (at_ : c.callers[n]? = some (.locking (.listen eventType receiver)))
      (holds : c.lock.holder = some n) (recorded : c.subscriptions.isSubscribed eventType = true) :
      Turn c n (c.unlock.finish n (.ok (.listener eventType receiver)))
  | subscribe {eventType : String} {receiver : Receiver}
      (at_ : c.callers[n]? = some (.locking (.listen eventType receiver)))
      (holds : c.lock.holder = some n) (unrecorded : c.subscriptions.isSubscribed eventType = false)
      (connected : c.connected = true) :
      Turn c n (c.issue n (.subscribeEvents (wireType eventType)) (.subscribe eventType receiver))
  | subscribeLost {eventType : String} {receiver : Receiver}
      (at_ : c.callers[n]? = some (.locking (.listen eventType receiver)))
      (holds : c.lock.holder = some n) (unrecorded : c.subscriptions.isSubscribed eventType = false)
      (down : c.connected = false) :
      Turn c n (c.lose n (.subscribe eventType receiver) "client is closed")
  /-- There is no subscription to end. -/
  | untaken {eventType : String} (at_ : c.callers[n]? = some (.locking (.unlisten eventType)))
      (holds : c.lock.holder = some n) (untaken : c.subscriptions.take eventType = none) :
      Turn c n (c.unlock.finishPlain n)
  /-- A subscription ends and the hub cannot be told. -/
  | taken {eventType : String} {subscriptions : Subscriptions} {handle : Option Nat}
      (at_ : c.callers[n]? = some (.locking (.unlisten eventType)))
      (holds : c.lock.holder = some n)
      (take : c.subscriptions.take eventType = some (subscriptions, handle))
      (untold : handle = none ∨ c.connected = false) :
      Turn c n ({ c with subscriptions }.unlock.finishPlain n)
  | unsubscribe {eventType : String} {subscriptions : Subscriptions} {id : Nat}
      (at_ : c.callers[n]? = some (.locking (.unlisten eventType)))
      (holds : c.lock.holder = some n)
      (take : c.subscriptions.take eventType = some (subscriptions, some id))
      (connected : c.connected = true) :
      Turn c n ({ c with subscriptions }.unlock.issue n (.unsubscribeEvents id) .unsubscribe)
  /-- The writing side stopped before the command got into the queue. -/
  | stranded {id : Nat} {command : Command} {purpose : Purpose}
      (at_ : c.callers[n]? = some (.sending id command purpose))
      (stopped : c.writer.isStopped = true) :
      Turn c n ({ c with commands := (c.commands.forget id).1 }.lose n purpose
        "writer task has stopped")
  | queued {id : Nat} {command : Command} {purpose : Purpose}
      (at_ : c.callers[n]? = some (.sending id command purpose))
      (running : c.writer.isStopped = false) (place : c.outbox.hasPlace n = true) :
      Turn c n ({ c with outbox := c.outbox.use n (.command id command) }.setCaller n
        (.awaiting id purpose))
  | answered {id : Nat} {purpose : Purpose} {outcome : ClientResult Json}
      (at_ : c.callers[n]? = some (.awaiting id purpose))
      (parked : (c.outcomes.find? fun o => o.1 = id) = some (id, outcome)) :
      Turn c n ({ c with
        outcomes := c.outcomes.filter fun o => o.1 ≠ id
        subscriptions := purpose.unrouteRefused id outcome c.subscriptions }.conclude n purpose
          (outcome.map fun value => (id, value)))
  /-- The farewell cannot be sent any more. -/
  | closed (at_ : c.callers[n]? = some .closing) (stopped : c.writer.isStopped = true) :
      Turn c n (c.closed n)
  | farewell (at_ : c.callers[n]? = some .closing) (running : c.writer.isStopped = false)
      (place : c.outbox.hasPlace n = true) :
      Turn c n ({ c with outbox := c.outbox.use n .close }.closed n)

/-- The parked outcome of a command carries its id. -/
theorem find?_outcomes {outcomes : List (Nat × ClientResult Json)} {id : Nat}
    {p : Nat × ClientResult Json} (h : (outcomes.find? fun o => o.1 = id) = some p) :
    p.1 = id := by
  simpa using List.find?_some h

/-- What a caller does once it holds the lock. -/
theorem locked_turn {purpose : LockPurpose} (at_ : c.callers[n]? = some (.locking purpose))
    (holds : c.lock.holder = some n) : Turn c n (c.locked n purpose) := by
  cases purpose with
  | listen eventType receiver =>
    simp only [locked, startCommand]
    split
    · exact .join at_ holds ‹_›
    · rename_i h
      have unrecorded : c.subscriptions.isSubscribed eventType = false := by simpa using h
      split
      · exact .subscribe at_ holds unrecorded ‹_›
      · exact .subscribeLost at_ holds unrecorded (by simpa using ‹¬ c.connected = true›)
  | unlisten eventType =>
    simp only [locked]
    split
    · exact .untaken at_ holds ‹_›
    · rename_i subscriptions handle take
      -- Whether the hub is told depends on its handle and on the connection.
      cases handle with
      | none => exact .taken at_ holds take (.inl rfl)
      | some id =>
        show Turn c n (startCommand _ n _ _)
        unfold startCommand
        split
        · exact .unsubscribe at_ holds take ‹_›
        · exact .taken at_ holds take (.inr (by simpa using ‹¬ _ = true›))

/-- What a caller does first. -/
theorem begin_turn {request : Request} (at_ : c.callers[n]? = some (.ready request)) :
    Turn c n (c.begin n request) := by
  cases request with
  | command command =>
    simp only [begin, startCommand]
    split
    · exact .command at_ ‹_›
    · exact .commandLost at_ (by simpa using ‹¬ c.connected = true›)
  | listen eventType => exact .listen at_
  | unlisten eventType => exact .unlisten at_
  | close =>
    simp only [begin]
    split
    · exact .close at_ ‹_›
    · exact .aside at_ (.inl ⟨.inl rfl, rfl⟩)
  | countPending => exact .aside at_ (.inr ⟨rfl, rfl⟩)
  | nothing => exact .aside at_ (.inl ⟨.inr rfl, rfl⟩)

/-- A caller that has not begun begins. -/
theorem run_ready {request : Request} (at_ : c.callers[n]? = some (.ready request)) :
    c.act (.run n) = c.begin n request := by
  show c.run n = _
  simp only [run, at_]

/-- A caller in line for the lock waits until it holds it. -/
theorem run_locking {purpose : LockPurpose} (at_ : c.callers[n]? = some (.locking purpose)) :
    c.act (.run n) = if c.lock.holder = some n then c.locked n purpose else c := by
  show c.run n = _
  simp only [run, at_]

/-- A caller with a command gives up if nobody writes any more, and uses a place if it
has one. -/
theorem run_sending {id : Nat} {command : Command} {purpose : Purpose}
    (at_ : c.callers[n]? = some (.sending id command purpose)) :
    c.act (.run n) =
      if c.writer.isStopped then
        { c with commands := (c.commands.forget id).1 }.lose n purpose "writer task has stopped"
      else if c.outbox.hasPlace n then
        { c with outbox := c.outbox.use n (.command id command) }.setCaller n (.awaiting id purpose)
      else c := by
  show c.run n = _
  simp only [run, at_]

/-- A caller with a command on its way waits for the answer. -/
theorem run_awaiting {id : Nat} {purpose : Purpose}
    (at_ : c.callers[n]? = some (.awaiting id purpose)) :
    c.act (.run n) = c.collect n id purpose := by
  show c.run n = _
  simp only [run, at_]

/-- A caller that is done stays so. -/
theorem run_done {result : ClientResult CallValue} (at_ : c.callers[n]? = some (.done result)) :
    c.act (.run n) = c := by
  show c.run n = _
  simp only [run, at_]

/-- A caller that goes on takes a turn, or nothing happens. -/
theorem run_turn (c : Connection) (n : Nat) : c.run n = c ∨ Turn c n (c.run n) := by
  unfold run
  split
  · exact .inl rfl
  · rename_i s at_
    cases s with
    | ready request => exact .inr (begin_turn at_)
    | locking purpose =>
      dsimp only
      split
      · exact .inr (locked_turn at_ ‹_›)
      · exact .inl rfl
    | sending id command purpose =>
      dsimp only
      split
      · exact .inr (.stranded at_ ‹_›)
      · split
        · exact .inr (.queued at_ (by simpa using ‹¬ _ = true›) ‹_›)
        · exact .inl rfl
    | closing =>
      dsimp only
      split
      · exact .inr (.closed at_ ‹_›)
      · split
        · exact .inr (.farewell at_ (by simpa using ‹¬ _ = true›) ‹_›)
        · exact .inl rfl
    | awaiting id purpose =>
      simp only [collect]
      split
      · exact .inl rfl
      · rename_i k outcome parked
        obtain rfl : k = id := find?_outcomes parked
        exact .inr (.answered at_ parked)
    | done result => exact .inl rfl

/-! ### Steps -/

/-- Whether the connection is up: it has not been shut down, and someone holds
the client. -/
def isUp (c : Connection) : Bool := c.connected && c.isHeld

/-- A connection is up as long as it is connected and somebody holds it. -/
theorem isUp_iff : c.isUp = true ↔ c.connected = true ∧ c.isHeld = true := by
  rw [isUp, Bool.and_eq_true]

/-- The frame that an action brings. -/
def Action.frame? : Action → Option Frame
  | .receive stamp (.text text) =>
    match Frame.decode stamp text with
    | .ok frame => some frame
    | .error _ => none
  | _ => none

/-- The reason that is given if an action takes the connection down. -/
def Action.farewell (c : Connection) : Action → String
  | .receive _ (.close frame) => "hub closed the connection: " ++ CloseFrame.describe frame
  | .receive _ (.fault text) => "websocket error: " ++ transportFault text
  | .receive _ _ => "websocket stream ended"
  | .write => "failed to write frame: " ++ transportFault (c.broken.getD "")
  | _ => "closed by client"

/-- Who writes without success says why the connection ends. -/
theorem farewell_write {fault : String} (h : c.broken = some fault) :
    Action.write.farewell c = "failed to write frame: " ++ transportFault fault := by
  have hw : Action.write.farewell c =
      "failed to write frame: " ++ transportFault (c.broken.getD "") := rfl
  rwa [h] at hw

/-- What an action can come to. -/
inductive Step (c : Connection) : Action → Connection → Prop where
  | turn {n : Nat} {c' : Connection} (turn : Turn c n c') : Step c (.run n) c'
  /-- Nothing happens. Messages of the hub are passed over once nothing is read,
  and before that if they are neither frames nor farewells. -/
  | idle {a : Action} (silent : c.reading = false ∨ a.frame? = none) : Step c a c
  | call {request : Request} (held : c.isHeld = true) :
      Step c (.call request) { c with callers := c.callers ++ [.ready request] }
  | take {message : Outgoing} {outbox : Outbox} (idle : c.writer = .idle)
      (take : c.outbox.take? = some (message, outbox)) :
      Step c .write { c with writer := .busy message, outbox }
  /-- There is nothing to write any more. -/
  | finish (idle : c.writer = .idle) (empty : c.outbox.take? = none) (down : c.isUp = false) :
      Step c .write { c with writer := .closing }
  | written {message : Outgoing} (busy : c.writer = .busy message) (works : c.broken = none) :
      Step c .write
        { c with writer := .after message, written := c.written ++ [message.written] }
  | unwritten {message : Outgoing} {fault : String} (busy : c.writer = .busy message)
      (broken : c.broken = some fault) (held : c.isHeld = true) :
      Step c .write { c.shutDown (Action.write.farewell c) with writer := .closing }
  /-- Writing fails, and nobody is left to be told. -/
  | unheard {message : Outgoing} {fault : String} (busy : c.writer = .busy message)
      (broken : c.broken = some fault) (free : c.isHeld = false) :
      Step c .write { c with writer := .closing }
  | stop (closing : c.writer = .closing) : Step c .write c.stopWriting
  | frame {a : Action} {frame : Frame} (reading : c.reading = true) (brings : a.frame? = some frame) :
      Step c a (c.handle frame)
  | farewell {stamp : Stamp} {item : Incoming} (reading : c.reading = true)
      (silent : Action.frame? (.receive stamp item) = none) :
      Step c (.receive stamp item) (c.stopReading (Action.farewell c (.receive stamp item)))
  | release : Step c .release { c with held := false }.letGo
  | breakWrites {fault : String} : Step c (.breakWrites fault) { c with broken := some fault }

/-- What the writer does. -/
theorem write_step (c : Connection) : Step c .write c.write := by
  unfold write
  split
  · split
    · exact .take ‹_› ‹_›
    · split
      · exact .idle (.inr rfl)
      · exact .finish ‹_› ‹_› (Bool.eq_false_iff.2 ‹¬ _ = true›)
  · split
    · rename_i fault broken
      unfold failWriting
      split
      · rw [← farewell_write broken]
        exact .unwritten ‹_› broken ‹_›
      · exact .unheard ‹_› broken (Bool.eq_false_iff.2 ‹¬ _ = true›)
    · exact .written ‹_› ‹_›
  · exact .stop ‹_›
  · exact .idle (.inr rfl)

/-- What the reader does. -/
theorem receive_step (c : Connection) (stamp : Stamp) (item : Incoming) :
    Step c (.receive stamp item) (c.receive stamp item) := by
  unfold receive
  split
  · exact .idle (.inl (by simpa using ‹(!c.reading) = true›))
  · rename_i h
    have reading : c.reading = true := by simpa using h
    cases item with
    | text text =>
      dsimp only
      split
      · rename_i frame decoded
        exact .frame reading (by simp only [Action.frame?, decoded])
      · rename_i cause decoded
        exact .idle (.inr (by simp only [Action.frame?, decoded]))
    | binary => exact .idle (.inr rfl)
    | ping => exact .idle (.inr rfl)
    | close frame => exact .farewell reading rfl
    | fault text => exact .farewell reading rfl
    | ended => exact .farewell reading rfl

/-- Every action is one of the steps. -/
theorem act_step (c : Connection) (a : Action) : Step c a (c.act a) := by
  cases a with
  | run n =>
    rcases c.run_turn n with h | h
    · have unchanged : c.act (.run n) = c := h
      rw [unchanged]
      exact .idle (.inr rfl)
    · exact .turn h
  | call request =>
    simp only [act]
    split
    · exact .call ‹_›
    · exact .idle (.inr rfl)
  | write => exact c.write_step
  | receive stamp item => exact c.receive_step stamp item
  | release => exact .release
  | breakWrites fault => exact .breakWrites

/-! ### Being up -/

/-- A caller at work holds the connection. -/
theorem isHeld_of_caller {s : CallerState} (at_ : c.callers[n]? = some s)
    (open_ : s.isDone = false) : c.isHeld = true := by
  rw [isHeld, Bool.or_eq_true]
  exact .inr (List.any_eq_true.2 ⟨s, List.mem_of_getElem? at_, by simp [open_]⟩)

/-- Only a caller that is not done takes a turn. -/
theorem Turn.caller (h : Turn c n c') :
    ∃ s, c.callers[n]? = some s ∧ s.isDone = false := by
  cases h <;> exact ⟨_, ‹c.callers[n]? = some _›, rfl⟩

/-- A turn is taken by somebody who holds the connection. -/
theorem Turn.isHeld (h : Turn c n c') : c.isHeld = true :=
  let ⟨_, at_, open_⟩ := h.caller
  isHeld_of_caller at_ open_

/-- A connection that went down does not come up. -/
theorem Turn.connected (h : Turn c n c') (up : c'.connected = true) : c.connected = true := by
  -- Only closing changes the flag, and it ends with the flag down.
  cases h <;> first | exact up | cases up

/-- While the connection is up, a turn does not stop the reading side. -/
theorem Turn.reading (h : Turn c n c') (up : c'.isUp = true) : c'.reading = c.reading := by
  obtain ⟨up, held⟩ := isUp_iff.1 up
  cases h <;>
    first
    | rfl
    | cases up
    | exact (congrArg (c.reading && ·) held).trans (Bool.and_true _)

/-- A frame does not end the reading. -/
theorem handle_reading (c : Connection) (frame : Frame) :
    (c.handle frame).reading = c.reading := by
  cases frame <;> rfl

theorem handle_connected (c : Connection) (frame : Frame) :
    (c.handle frame).connected = c.connected := by
  cases frame <;> rfl

theorem handle_callers (c : Connection) (frame : Frame) :
    (c.handle frame).callers = c.callers := by
  cases frame <;> rfl

theorem handle_held (c : Connection) (frame : Frame) : (c.handle frame).held = c.held := by
  cases frame <;> rfl

/-- A connection that went down does not come up. -/
theorem Step.connected {a : Action} (h : Step c a c') (up : c'.connected = true) :
    c.connected = true := by
  cases h with
  | turn turn => exact turn.connected up
  | frame reading brings => exact (c.handle_connected _).symm.trans up
  | unwritten busy broken held => cases up
  | farewell reading silent => cases up
  | _ => exact up

/-- Nobody gets hold of a connection again once it was let go. -/
theorem Step.isHeld {a : Action} (h : Step c a c') (held : c'.isHeld = true) :
    c.isHeld = true := by
  cases h with
  | turn turn => exact turn.isHeld
  | call was => exact was
  | @frame _ frame reading brings =>
    rwa [Connection.isHeld, handle_held, handle_callers] at held
  | release =>
    -- Whoever holds the client after that is a caller, and was there before.
    have held : (false || c.callers.any fun s => !s.isDone) = true := held
    rw [Connection.isHeld, Bool.or_eq_true]
    exact .inr held
  | _ => exact held

/-- A connection that is up was up before. -/
theorem Step.isUp {a : Action} (h : Step c a c') (up : c'.isUp = true) : c.isUp = true :=
  isUp_iff.2 ⟨h.connected (isUp_iff.1 up).1, h.isHeld (isUp_iff.1 up).2⟩

/-- A connection that is up was so all along. -/
theorem isUp_of_actAll (c : Connection) (actions : List Action)
    (up : (c.actAll actions).isUp = true) : c.isUp = true := by
  induction actions generalizing c with
  | nil => exact up
  | cons a rest ih => exact (c.act_step a).isUp (ih _ up)

/-- While the connection is up, no step stops the reading side. -/
theorem Step.reading {a : Action} (h : Step c a c') (up : c'.isUp = true) :
    c'.reading = c.reading := by
  cases h with
  | turn turn => exact turn.reading up
  | frame reading brings => exact c.handle_reading _
  | farewell reading silent => cases (isUp_iff.1 up).1
  | release =>
    exact (congrArg (c.reading && ·) (isUp_iff.1 up).2).trans (Bool.and_true _)
  | _ => rfl

/-- While the connection is up, the reading side runs. -/
theorem Reachable.reading (h : c.Reachable) (up : c.isUp = true) : c.reading = true :=
  h.induction (P := fun c => c.isUp = true → c.reading = true) (fun _ _ _ => rfl)
    (fun c a _ h up => ((c.act_step a).reading up).trans (h ((c.act_step a).isUp up))) up

/-- A connection that is down stays so. -/
theorem connected_actAll (c : Connection) (actions : List Action)
    (down : c.connected = false) : (c.actAll actions).connected = false :=
  actAll_induction (P := fun c => c.connected = false)
    (fun c a h => Bool.eq_false_iff.2 fun up =>
      Bool.eq_false_iff.1 h ((c.act_step a).connected up)) down actions

/-! ### The writing side -/

/-- A message that is taken out stood first in the queue. -/
theorem messages_take? {o o' : Outbox} {m : Outgoing} (h : o.take? = some (m, o')) :
    o.messages = m :: o'.messages := by
  unfold Outbox.take? at h
  split at h
  · cases h
  · rename_i m' rest hm
    cases h
    exact hm

/-- Callers do not touch the writer. -/
theorem Turn.writer (h : Turn c n c') : c'.writer = c.writer := by cases h <;> rfl

/-- Only a connection that is down has a farewell in its queue. -/
theorem Turn.noFarewell (h : Turn c n c') (up : c'.connected = true)
    (none_ : Outgoing.close ∉ c.outbox.messages) : Outgoing.close ∉ c'.outbox.messages := by
  cases h with
  | queued at_ running place =>
    show Outgoing.close ∉ c.outbox.messages ++ [.command _ _]
    simpa using none_
  | closed at_ stopped => cases up
  | farewell at_ running place => cases up
  | _ => exact none_

/-- What holds of the writing side as long as the connection is up. -/
structure Writing (c : Connection) : Prop where
  noFarewell : c.connected = true → Outgoing.close ∉ c.outbox.messages
  isOn : c.isUp = true → c.writer.isOn = true

/-- What holds of the writing side is kept by every action. -/
theorem Writing.act (h : c.Writing) (a : Action) : (c.act a).Writing := by
  have step := c.act_step a
  generalize c.act a = c' at step
  constructor
  · intro up
    have none_ := h.noFarewell (step.connected up)
    cases step with
    | turn turn => exact turn.noFarewell up none_
    | take idle take =>
      rw [messages_take? take] at none_
      exact fun hm => none_ (List.mem_cons_of_mem _ hm)
    | stop closing => exact List.not_mem_nil
    | @frame _ frame reading brings =>
      have same : (c.handle frame).outbox = c.outbox := by cases frame <;> rfl
      rwa [same]
    | _ => exact none_
  · intro up
    have on := h.isOn (step.isUp up)
    -- All ways to stop writing need a farewell in the queue, a connection that is
    -- down, or nobody who holds the client.
    cases step with
    | turn turn => rwa [turn.writer]
    | @take message outbox idle take =>
      have none_ := h.noFarewell (isUp_iff.1 (Step.isUp (.take idle take) up)).1
      cases message with
      | command id command => rfl
      | close =>
        rw [messages_take? take] at none_
        exact absurd List.mem_cons_self none_
    | finish idle empty down =>
      have same : c.isUp = true := up
      rw [down] at same
      cases same
    | @written message busy works =>
      rw [busy] at on
      cases message with
      | command id command => rfl
      | close => cases on
    | unwritten busy broken held => cases (isUp_iff.1 up).1
    | unheard busy broken free =>
      have held : c.isHeld = true := (isUp_iff.1 up).2
      rw [free] at held
      cases held
    | stop closing =>
      rw [closing] at on
      cases on
    | @frame _ frame reading brings =>
      have same : (c.handle frame).writer = c.writer := by cases frame <;> rfl
      rwa [same]
    | _ => exact on

/-- What holds of the writing side holds in every run. -/
theorem Reachable.writing (h : c.Reachable) : c.Writing :=
  h.induction (fun _ _ => ⟨fun _ => List.not_mem_nil, fun _ => rfl⟩) fun _ a _ h => h.act a

/-- Once the writing side stopped, the connection is not up. -/
theorem Writing.down_of_stopped (h : c.Writing) (stopped : c.writer.isStopped = true) :
    c.isUp = false := by
  refine Bool.eq_false_iff.2 fun up => ?_
  have on := h.isOn up
  unfold Writer.isStopped at stopped
  split at stopped
  · rename_i is_
    rw [is_] at on
    cases on
  · cases stopped

/-- A connection on which a command is lost is not up. -/
theorem Writing.down_of_lost (h : c.Writing)
    (lost : c.connected = false ∨ c.writer.isStopped = true) : c.isUp = false := by
  rcases lost with down | stopped
  · rw [isUp, down, Bool.false_and]
  · exact h.down_of_stopped stopped

/-- A connection that is down has more to write, or its writing side stopped. -/
theorem isStopped_of_down (down : c.connected = false) (rest : c.canWrite = false) :
    c.writer.isStopped = true := by
  unfold canWrite at rest
  split at rest
  -- An idle writing side goes on to stop once the connection is down.
  · rw [down, Bool.false_and, Bool.not_false, Bool.or_true] at rest
    cases rest
  · cases rest
  · cases rest
  · simp only [Writer.isStopped, *]

end Connection

end HubAutomation
