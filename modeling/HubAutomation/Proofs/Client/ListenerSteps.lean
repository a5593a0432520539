import HubAutomation.Proofs.Client.CommandSteps

/-!
# Steps, as listeners see them

Listeners depend on the streams and routes of a connection, on the lock, and on
the callers that ask for the lock or hold it. Here is what an action can do to
these.

- `CallerState.inLine`, `CallerState.subscribing?`: callers that ask for the
  lock or hold it, and the subscription that one of them has under way.
- `CallerState.listens?`, `CallerState.receiver?` and others: what callers show
  of themselves, by `Connection.view`.
- `ListenerTurn`: what a turn of a caller does. `ListenerEvent`: what all other
  actions do.
- `Connection.Step.listeners`: one of the two, for every step.
- `Connection.Takes`: a caller ends the subscription of a type.
- `Connection.Step.subscriptions`: what becomes of subscriptions, whoever takes
  the step.
-/

namespace HubAutomation

namespace CallerState

/-- The subscription that a caller has under way. -/
def subscribing? : CallerState → Option (Nat × String × Receiver)
  | .sending id _ (.subscribe eventType receiver) => some (id, eventType, receiver)
  | .awaiting id (.subscribe eventType receiver) => some (id, eventType, receiver)
  | _ => none

/-- What a caller asks for the lock for. -/
def lockPurpose? : CallerState → Option LockPurpose
  | .locking purpose => some purpose
  | _ => none

/-- Whether a caller asks for the lock or holds it. -/
def inLine (s : CallerState) : Bool := s.lockPurpose?.isSome || s.subscribing?.isSome

theorem inLine_of_subscribing {s : CallerState} {p : Nat × String × Receiver}
    (h : s.subscribing? = some p) : s.inLine = true := by
  rw [inLine, h]
  exact Bool.or_true _

/-- The type that a caller is about to listen to. -/
def listens? : CallerState → Option String
  | .ready (.listen eventType) => some eventType
  | _ => none

/-- The type whose subscription a caller is about to end. -/
def unlistens? : CallerState → Option String
  | .ready (.unlisten eventType) => some eventType
  | _ => none

/-- The type whose subscription a caller ends as soon as it has the lock. -/
def ending? : CallerState → Option String
  | .locking (.unlisten eventType) => some eventType
  | _ => none

/-- The type and the receiver that a caller got. -/
def listener? : CallerState → Option (String × Receiver)
  | .done (.ok (.listener eventType receiver)) => some (eventType, receiver)
  | _ => none

/-- The type that a caller listens to as soon as it has the lock. -/
def asks? : CallerState → Option String
  | .locking (.listen eventType _) => some eventType
  | _ => none

/-- The receiver that a caller has. -/
def receiver? : CallerState → Option Receiver
  | .locking (.listen _ receiver) => some receiver
  | .sending _ _ (.subscribe _ receiver) => some receiver
  | .awaiting _ (.subscribe _ receiver) => some receiver
  | .done (.ok (.listener _ receiver)) => some receiver
  | _ => none

theorem listens?_eq_some {s : CallerState} {eventType : String} :
    s.listens? = some eventType ↔ s = .ready (.listen eventType) := by
  constructor
  · intro h
    unfold listens? at h
    split at h
    · cases h
      rfl
    · cases h
  · rintro rfl
    rfl

theorem unlistens?_eq_some {s : CallerState} {eventType : String} :
    s.unlistens? = some eventType ↔ s = .ready (.unlisten eventType) := by
  constructor
  · intro h
    unfold unlistens? at h
    split at h
    · cases h
      rfl
    · cases h
  · rintro rfl
    rfl

theorem ending?_eq_some {s : CallerState} {eventType : String} :
    s.ending? = some eventType ↔ s = .locking (.unlisten eventType) := by
  constructor
  · intro h
    unfold ending? at h
    split at h
    · cases h
      rfl
    · cases h
  · rintro rfl
    rfl

theorem listener?_eq_some {s : CallerState} {eventType : String} {receiver : Receiver} :
    s.listener? = some (eventType, receiver) ↔ s = .done (.ok (.listener eventType receiver)) := by
  constructor
  · intro h
    unfold listener? at h
    split at h
    · cases h
      rfl
    · cases h
  · rintro rfl
    rfl

end CallerState

namespace Subscriptions

/-- The subscriptions after a subscription was answered. -/
def answered (s : Subscriptions) (id : Nat) (eventType : String) (receiver : Receiver) :
    ClientResult Json → Subscriptions
  | .ok _ => { s with hub := s.hub.insert eventType (some id) }
  | .error e =>
    if e.isAlreadySubscribed then { s.unroute id with hub := s.hub.insert eventType none }
    else (s.unroute id).drop receiver

/-- An answer to a request for a subscription changes the records in one way. -/
theorem answered_eq (s : Subscriptions) (id : Nat) (eventType : String) (receiver : Receiver)
    (outcome : ClientResult Json) :
    (Purpose.subscribe eventType receiver).record
        ((outcome.map fun value => (id, value)).map Prod.fst)
        ((Purpose.subscribe eventType receiver).unrouteRefused id outcome s) =
      s.answered id eventType receiver outcome := by
  cases outcome with
  | ok value => rfl
  | error e =>
    simp only [answered, Purpose.record, Purpose.unrouteRefused, Except.map, record]
    by_cases known : e.isAlreadySubscribed = true
    · rw [if_pos known, if_pos known]
      rfl
    · rw [if_neg known, if_neg known]

theorem close_close (s : Subscriptions) : s.close.close = s.close := by
  simp [close, Function.comp_def, Channel.finish]

end Subscriptions

namespace Connection

variable {c c' : Connection} {n : Nat}

/-- What a caller shows of itself. -/
def view {α : Type} (c : Connection) (n : Nat) (f : CallerState → Option α) : Option α :=
  c.callers[n]?.bind f

theorem view_eq_some {α : Type} {f : CallerState → Option α} {x : α} :
    c.view n f = some x ↔ ∃ s, c.callers[n]? = some s ∧ f s = some x :=
  Option.bind_eq_some_iff

/-- What callers show after one of them has got a new state. -/
theorem view_set {α : Type} {s s' : CallerState} (f : CallerState → Option α)
    (at_ : c.callers[n]? = some s) (callers : c'.callers = c.callers.set n s') (m : Nat) :
    c'.view m f = if m = n then f s' else c.view m f := by
  rw [view, callers, getElem?_set_caller at_]
  split
  · rfl
  · rfl

/-- The subscriptions are left as they are given, or closed as the connection is
not up. -/
def LeftWith (s : Subscriptions) (c' : Connection) : Prop :=
  c'.subscriptions = s ∨ c'.subscriptions = s.close ∧ c'.isUp = false

theorem LeftWith.of_up {s : Subscriptions} (h : LeftWith s c') (up : c'.isUp = true) :
    c'.subscriptions = s := by
  rcases h with h | ⟨-, down⟩
  · exact h
  · rw [down] at up
    cases up

/-- A connection that is let go of may close its streams. -/
theorem leftWith_letGo (c : Connection) : LeftWith c.subscriptions c.letGo := by
  cases held : c.isHeld with
  | true =>
    refine .inl ?_
    show (if c.isHeld then c.subscriptions else c.subscriptions.close) = _
    rw [held, if_pos rfl]
  | false =>
    refine .inr ⟨?_, ?_⟩
    · show (if c.isHeld then c.subscriptions else c.subscriptions.close) = _
      rw [held, if_neg Bool.false_ne_true]
    · show (c.connected && c.isHeld) = false
      rw [held, Bool.and_false]

theorem leftWith_finish (c : Connection) (n : Nat) (result : ClientResult CallValue) :
    LeftWith c.subscriptions (c.finish n result) :=
  leftWith_letGo (c.setCaller n (.done result))

theorem leftWith_closed (c : Connection) (n : Nat) : LeftWith c.subscriptions (c.closed n) := by
  rcases leftWith_finish { c.shutDown "closed by client" with reading := false } n
    (.ok (.json .null)) with h | ⟨h, down⟩
  · exact .inr ⟨h, rfl⟩
  · exact .inr ⟨h.trans c.subscriptions.close_close, rfl⟩

/-! ### Turns -/

/-- What a turn of a caller does to listeners. -/
inductive ListenerTurn (c : Connection) (n : Nat) (c' : Connection) : Prop where
  /-- The caller has nothing to do with listeners, neither before nor after. -/
  | aside (s s' : CallerState) (at_ : c.callers[n]? = some s) (open_ : s.isDone = false)
      (callers : c'.callers = c.callers.set n s') (before : s.inLine = false)
      (after : s'.inLine = false) (asks : s.listens? = none) (gets : s'.listener? = none)
      (lock : c'.lock = c.lock)
      (left : LeftWith c.subscriptions c')
  /-- A caller gets a receiver and asks for the lock. -/
  | listen (eventType : String) (at_ : c.callers[n]? = some (.ready (.listen eventType)))
      (callers : c'.callers =
        c.callers.set n (.locking (.listen eventType (c.subscriptions.stream eventType).2)))
      (lock : c'.lock = c.lock.acquire n)
      (subscriptions : c'.subscriptions = (c.subscriptions.stream eventType).1)
  /-- A caller that wants to end a subscription asks for the lock. -/
  | unlisten (eventType : String) (at_ : c.callers[n]? = some (.ready (.unlisten eventType)))
      (callers : c'.callers = c.callers.set n (.locking (.unlisten eventType)))
      (lock : c'.lock = c.lock.acquire n) (subscriptions : c'.subscriptions = c.subscriptions)
  /-- The subscription is there already. -/
  | join (eventType : String) (receiver : Receiver)
      (at_ : c.callers[n]? = some (.locking (.listen eventType receiver)))
      (holds : c.lock.holder = some n) (recorded : c.subscriptions.isSubscribed eventType = true)
      (callers : c'.callers = c.callers.set n (.done (.ok (.listener eventType receiver))))
      (lock : c'.lock = c.lock.release) (left : LeftWith c.subscriptions c')
  /-- A subscription gets its id. -/
  | subscribe (eventType : String) (receiver : Receiver)
      (at_ : c.callers[n]? = some (.locking (.listen eventType receiver)))
      (holds : c.lock.holder = some n) (unrecorded : c.subscriptions.isSubscribed eventType = false)
      (connected : c.connected = true)
      (callers : c'.callers = c.callers.set n (.sending c.commands.nextId
        (.subscribeEvents (wireType eventType)) (.subscribe eventType receiver)))
      (commands : c'.commands = c.commands.register) (lock : c'.lock = c.lock)
      (subscriptions : c'.subscriptions = c.subscriptions.route c.commands.nextId eventType)
  /-- A subscription does not get to the hub. -/
  | lost (s : CallerState) (eventType : String) (receiver : Receiver) (reason : String)
      (at_ : c.callers[n]? = some s)
      (asked : s = .locking (.listen eventType receiver) ∧ c.lock.holder = some n ∧
          c.subscriptions.isSubscribed eventType = false ∧ reason = "client is closed" ∨
        ∃ id, s.subscribing? = some (id, eventType, receiver))
      (down : c.connected = false ∨ c.writer.isStopped = true)
      (callers : c'.callers = c.callers.set n (.done (.error (.connectionLost reason))))
      (lock : c'.lock = c.lock.release) (left : LeftWith (c.subscriptions.drop receiver) c')
  /-- There is no subscription to end. -/
  | untaken (eventType : String) (at_ : c.callers[n]? = some (.locking (.unlisten eventType)))
      (holds : c.lock.holder = some n) (unrecorded : c.subscriptions.take eventType = none)
      (callers : c'.callers = c.callers.set n (.done (.ok (.json .null))))
      (lock : c'.lock = c.lock.release) (left : LeftWith c.subscriptions c')
  /-- A subscription ends. -/
  | taken (eventType : String) (subscriptions : Subscriptions) (handle : Option Nat)
      (s' : CallerState) (at_ : c.callers[n]? = some (.locking (.unlisten eventType)))
      (holds : c.lock.holder = some n)
      (take : c.subscriptions.take eventType = some (subscriptions, handle))
      (callers : c'.callers = c.callers.set n s') (after : s'.inLine = false)
      (gets : s'.listener? = none) (lock : c'.lock = c.lock.release)
      (left : LeftWith subscriptions c')
  /-- The request for a subscription gets into the queue. -/
  | queued (id : Nat) (command : Command) (eventType : String) (receiver : Receiver)
      (at_ : c.callers[n]? = some (.sending id command (.subscribe eventType receiver)))
      (callers : c'.callers = c.callers.set n (.awaiting id (.subscribe eventType receiver)))
      (lock : c'.lock = c.lock) (subscriptions : c'.subscriptions = c.subscriptions)
  /-- A subscription is answered. -/
  | answered (id : Nat) (eventType : String) (receiver : Receiver) (outcome : ClientResult Json)
      (at_ : c.callers[n]? = some (.awaiting id (.subscribe eventType receiver)))
      (parked : (id, outcome) ∈ c.outcomes)
      (callers : c'.callers =
        c.callers.set n (.done ((Purpose.subscribe eventType receiver).answer outcome)))
      (lock : c'.lock = c.lock.release)
      (left : LeftWith (c.subscriptions.answered id eventType receiver outcome) c')

/-- The end of a call may be the end of the connection. -/
theorem leftWith_conclude (c : Connection) (n : Nat) (purpose : Purpose)
    (outcome : ClientResult (Nat × Json)) :
    LeftWith (purpose.record (outcome.map Prod.fst) c.subscriptions)
      (c.conclude n purpose outcome) :=
  leftWith_finish _ n _

/-- What a turn means for listeners, by its shape. -/
theorem Turn.listenerTurn (h : Turn c n c') : ListenerTurn c n c' := by
  -- By the shape of the turn. Most of them are beside the point of listeners and end in
  -- `aside`.
  cases h with
  | command at_ connected => exact .aside _ _ at_ rfl rfl rfl rfl rfl rfl rfl (.inl rfl)
  | commandLost at_ down =>
    exact .aside _ _ at_ rfl rfl rfl rfl rfl rfl rfl (leftWith_conclude c n .plain _)
  | listen at_ => exact .listen _ at_ rfl rfl rfl
  | unlisten at_ => exact .unlisten _ at_ rfl rfl rfl
  | close at_ connected => exact .aside _ _ at_ rfl rfl rfl rfl rfl rfl rfl (.inl rfl)
  | aside at_ kind =>
    rcases kind with ⟨rfl | rfl, rfl⟩ | ⟨rfl, rfl⟩ <;>
      exact .aside _ _ at_ rfl rfl rfl rfl rfl rfl rfl (leftWith_finish c n _)
  | join at_ holds recorded =>
    exact .join _ _ at_ holds recorded rfl rfl (leftWith_finish c.unlock n _)
  | subscribe at_ holds unrecorded connected =>
    exact .subscribe _ _ at_ holds unrecorded connected rfl rfl rfl rfl
  | @subscribeLost eventType receiver at_ holds unrecorded down =>
    exact .lost _ eventType receiver _ at_ (.inl ⟨rfl, holds, unrecorded, rfl⟩) (.inl down) rfl rfl
      (leftWith_conclude c n (.subscribe eventType receiver) _)
  | untaken at_ holds untaken =>
    exact .untaken _ at_ holds untaken rfl rfl (leftWith_finish c.unlock n _)
  | @taken eventType subscriptions handle at_ holds take untold =>
    exact .taken _ _ handle _ at_ holds take rfl rfl rfl rfl
      (leftWith_finish { c with subscriptions }.unlock n _)
  | unsubscribe at_ holds take connected =>
    exact .taken _ _ _ _ at_ holds take rfl rfl rfl rfl (.inl rfl)
  | @stranded id command purpose at_ stopped =>
    -- Only a subscription has the lock and a stream to give back.
    have left := leftWith_conclude { c with commands := (c.commands.forget id).1 } n purpose
      (.error (.connectionLost "writer task has stopped"))
    cases purpose with
    | plain => exact .aside _ _ at_ rfl rfl rfl rfl rfl rfl rfl left
    | unsubscribe => exact .aside _ _ at_ rfl rfl rfl rfl rfl rfl rfl left
    | subscribe eventType receiver =>
      exact .lost _ eventType receiver _ at_ (.inr ⟨id, rfl⟩) (.inr stopped) rfl rfl left
  | @queued id command purpose at_ running next =>
    cases purpose with
    | plain => exact .aside _ _ at_ rfl rfl rfl rfl rfl rfl rfl (.inl rfl)
    | unsubscribe => exact .aside _ _ at_ rfl rfl rfl rfl rfl rfl rfl (.inl rfl)
    | subscribe eventType receiver => exact .queued id command _ _ at_ rfl rfl rfl
  | @answered id purpose outcome at_ parked =>
    have left := leftWith_conclude { c with
      outcomes := c.outcomes.filter fun o => o.1 ≠ id
      subscriptions := purpose.unrouteRefused id outcome c.subscriptions } n purpose
        (outcome.map fun value => (id, value))
    cases purpose with
    | plain =>
      refine .aside _ _ at_ rfl rfl rfl rfl rfl ?_ rfl left
      cases outcome <;> rfl
    | unsubscribe => exact .aside _ _ at_ rfl rfl rfl rfl rfl rfl rfl left
    | subscribe eventType receiver =>
      rw [Subscriptions.answered_eq] at left
      refine .answered id _ _ outcome at_ (List.mem_of_find?_eq_some parked) ?_ rfl left
      show List.set _ _ (CallerState.done (Purpose.answer _ ((outcome.map _).map Prod.snd))) = _
      rw [map_snd_withId]
  | closed at_ stopped => exact .aside _ _ at_ rfl rfl rfl rfl rfl rfl rfl (leftWith_closed c n)
  | farewell at_ running place =>
    exact .aside _ _ at_ rfl rfl rfl rfl rfl rfl rfl
      (leftWith_closed { c with outbox := c.outbox.use n .close } n)

/-! ### All other actions -/

/-- What an action that is no turn does to listeners. -/
inductive ListenerEvent (c : Connection) (a : Action) (c' : Connection) : Prop where
  | quiet (silent : ∀ frame, a.frame? = some (.event frame) → c.reading = false)
      (callers : ∃ new, c'.callers = c.callers ++ new ∧ ∀ s ∈ new, ∃ request, s = .ready request)
      (lock : c'.lock = c.lock) (left : LeftWith c.subscriptions c')
  /-- An event arrives. -/
  | event (frame : EventFrame) (reading : c.reading = true) (brings : a.frame? = some (.event frame))
      (callers : c'.callers = c.callers) (lock : c'.lock = c.lock)
      (subscriptions : c'.subscriptions = c.subscriptions.dispatch frame.id frame.event)

theorem ListenerEvent.idle {a : Action}
    (silent : ∀ frame, a.frame? = some (.event frame) → c.reading = false)
    (callers : c'.callers = c.callers) (lock : c'.lock = c.lock)
    (left : LeftWith c.subscriptions c') : ListenerEvent c a c' :=
  .quiet silent ⟨[], by rw [callers, List.append_nil], nofun⟩ lock left

theorem ListenerEvent.lock {a : Action} (e : ListenerEvent c a c') : c'.lock = c.lock := by
  cases e with
  | quiet silent callers lock left => exact lock
  | event frame reading brings callers lock subscriptions => exact lock

/-- Those callers that are more than ready are where they were. -/
theorem ListenerEvent.caller_iff {a : Action} {s : CallerState} (e : ListenerEvent c a c')
    (further : ∀ request, s ≠ .ready request) (m : Nat) :
    c'.callers[m]? = some s ↔ c.callers[m]? = some s := by
  cases e with
  | quiet silent callers lock left =>
    obtain ⟨new, callers, ready⟩ := callers
    exact caller_append callers ready further m
  | event frame reading brings callers lock subscriptions => rw [callers]

/-- What callers show only when they are more than ready, they showed before. -/
theorem ListenerEvent.view {α : Type} {a : Action} {f : CallerState → Option α} {x : α}
    (e : ListenerEvent c a c') (hidden : ∀ request, f (.ready request) = none) {m : Nat}
    (h : c'.view m f = some x) : c.view m f = some x := by
  obtain ⟨s, at_, is_⟩ := view_eq_some.1 h
  refine view_eq_some.2 ⟨s, (e.caller_iff (fun request was => ?_) m).1 at_, is_⟩
  rw [was, hidden] at is_
  cases is_

/-- What an action does to listeners: a caller takes a turn, or something else
happens around them. -/
theorem Step.listeners {a : Action} (h : Step c a c') :
    (∃ n, a = .run n ∧ ListenerTurn c n c') ∨ ListenerEvent c a c' := by
  cases h with
  | @turn n _ turn => exact .inl ⟨n, rfl, turn.listenerTurn⟩
  | idle silent =>
    refine .inr (.idle (fun frame brings => silent.elim (fun h => h) fun h => ?_) rfl rfl (.inl rfl))
    rw [h] at brings
    cases brings
  | @call request held =>
    exact .inr (.quiet nofun ⟨[.ready request], rfl, by simp⟩ rfl (.inl rfl))
  | take idle take => exact .inr (.idle nofun rfl rfl (.inl rfl))
  | finish idle empty down => exact .inr (.idle nofun rfl rfl (.inl rfl))
  | written busy works => exact .inr (.idle nofun rfl rfl (.inl rfl))
  | unwritten busy broken held => exact .inr (.idle nofun rfl rfl (.inr ⟨rfl, rfl⟩))
  | unheard busy broken free => exact .inr (.idle nofun rfl rfl (.inl rfl))
  | stop closing => exact .inr (.idle nofun rfl rfl (.inl rfl))
  | @frame _ frame reading brings =>
    cases frame with
    | event frame => exact .inr (.event frame reading brings rfl rfl rfl)
    | _ =>
      refine .inr (.idle (fun other h => ?_) rfl rfl (.inl rfl))
      rw [brings] at h
      cases h
  | farewell reading silent =>
    refine .inr (.idle (fun frame brings => ?_) rfl rfl (.inr ⟨rfl, rfl⟩))
    rw [silent] at brings
    cases brings
  | release => exact .inr (.idle nofun rfl rfl (leftWith_letGo { c with held := false }))
  | breakWrites => exact .inr (.idle nofun rfl rfl (.inl rfl))

/-! ### What becomes of subscriptions -/

/-- A caller that has the lock ends the subscription of a type. -/
def Takes (type : String) (c : Connection) : Action → Prop
  | .run m => c.view m CallerState.ending? = some type ∧ c.lock.holder = some m ∧
      c.subscriptions.isSubscribed type = true
  | _ => False

instance (type : String) (c : Connection) : DecidablePred (Takes type c)
  | .run m => inferInstanceAs (Decidable (c.view m CallerState.ending? = some type ∧
      c.lock.holder = some m ∧ c.subscriptions.isSubscribed type = true))
  | .call _ | .write | .receive _ _ | .release | .breakWrites _ => .isFalse id

/-- What a step makes of the subscriptions unless it brings an event. -/
inductive SubscriptionChange (c : Connection) (a : Action) : Subscriptions → Prop where
  | same : SubscriptionChange c a c.subscriptions
  | stream (eventType : String) : SubscriptionChange c a (c.subscriptions.stream eventType).1
  | route (eventType : String) (up : c.isUp = true) :
      SubscriptionChange c a (c.subscriptions.route c.commands.nextId eventType)
  | drop (receiver : Receiver) : SubscriptionChange c a (c.subscriptions.drop receiver)
  | take {subscriptions : Subscriptions} (eventType : String) (handle : Option Nat)
      (takes : Takes eventType c a)
      (take : c.subscriptions.take eventType = some (subscriptions, handle)) :
      SubscriptionChange c a subscriptions
  | answered (n id : Nat) (eventType : String) (receiver : Receiver) (outcome : ClientResult Json)
      (at_ : c.callers[n]? = some (.awaiting id (.subscribe eventType receiver)))
      (parked : (id, outcome) ∈ c.outcomes) :
      SubscriptionChange c a (c.subscriptions.answered id eventType receiver outcome)

/-- What a step does to subscriptions, whoever takes it. -/
inductive SubscriptionStep (c : Connection) (a : Action) (c' : Connection) : Prop where
  | change (subscriptions : Subscriptions)
      (silent : ∀ frame, a.frame? = some (.event frame) → c.reading = false)
      (change : SubscriptionChange c a subscriptions) (left : LeftWith subscriptions c')
  | event (frame : EventFrame) (reading : c.reading = true) (brings : a.frame? = some (.event frame))
      (subscriptions : c'.subscriptions = c.subscriptions.dispatch frame.id frame.event)

/-- A turn changes the subscriptions in at most one way. -/
theorem ListenerTurn.change (t : ListenerTurn c n c') :
    ∃ s, SubscriptionChange c (.run n) s ∧ LeftWith s c' := by
  cases t with
  | aside s s' at_ open_ callers before after asks gets lock left => exact ⟨_, .same, left⟩
  | listen eventType at_ callers lock subs => exact ⟨_, .stream eventType, .inl subs⟩
  | unlisten eventType at_ callers lock subs => exact ⟨_, .same, .inl subs⟩
  | join eventType receiver at_ holds recorded callers lock left => exact ⟨_, .same, left⟩
  | subscribe eventType receiver at_ holds unrecorded connected callers commands lock subs =>
    have up : c.isUp = true := isUp_iff.2 ⟨connected, isHeld_of_caller at_ rfl⟩
    exact ⟨_, .route eventType up, .inl subs⟩
  | lost s eventType receiver reason at_ asked down callers lock left =>
    exact ⟨_, .drop receiver, left⟩
  | untaken eventType at_ holds unrecorded callers lock left => exact ⟨_, .same, left⟩
  | taken eventType subscriptions handle s' at_ holds take callers after gets lock left =>
    have recorded : c.subscriptions.isSubscribed eventType = true := by
      rw [Subscriptions.isSubscribed, Dict.mem, find?_of_take take]
      rfl
    exact ⟨_, .take eventType handle ⟨view_eq_some.2 ⟨_, at_, rfl⟩, holds, recorded⟩ take, left⟩
  | queued id command eventType receiver at_ callers lock subs => exact ⟨_, .same, .inl subs⟩
  | answered id eventType receiver outcome at_ parked callers lock left =>
    exact ⟨_, .answered n id eventType receiver outcome at_ parked, left⟩

/-- An action changes the subscriptions in at most one way. -/
theorem Step.subscriptions {a : Action} (h : Step c a c') : SubscriptionStep c a c' := by
  rcases h.listeners with ⟨n, rfl, t⟩ | e
  · obtain ⟨s, change, left⟩ := t.change
    exact .change s nofun change left
  · cases e with
    | quiet silent callers lock left => exact .change _ silent .same left
    | event frame reading brings callers lock subs => exact .event frame reading brings subs

end Connection

end HubAutomation
