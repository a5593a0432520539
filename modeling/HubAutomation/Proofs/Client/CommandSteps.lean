import HubAutomation.Proofs.Client.Steps

/-!
# Steps, as commands see them

Commands depend on little of a connection: on the table of those that wait, on
the outcomes that are parked, on the callers, on the messages in the queue, and
on whether the connection is up. Here is what an action can do to these.

- `Action.outcomeFor`: the outcome that an action has for the command with an id.
- `Connection.starting`: the command that a caller is about to start.
- `CommandTurn`: what a turn of a caller does. `CommandEvent`: what all other
  actions do.
- `Connection.Step.commands`: one of the two, for every step.
-/

namespace HubAutomation

namespace CallerState

/-- The id of the command that a caller has under way. -/
def id? : CallerState → Option Nat
  | .sending id _ _ | .awaiting id _ => some id
  | .ready _ | .locking _ | .closing | .done _ => none

theorem not_isDone_of_id? {s : CallerState} {id : Nat} (h : s.id? = some id) :
    s.isDone = false := by
  cases s <;> first | rfl | cases h

end CallerState

/-- The outcome that a frame has for the command with an id. -/
def Frame.outcomeFor (id : Nat) : Frame → Option (ClientResult Json)
  | .result frame => if frame.id = id then some (frame.outcome.mapError .command) else none
  | .pong other => if other = id then some (.ok .null) else none
  | .authRequired _ | .authOk _ | .authInvalid _ | .event _ | .unknown => none

/-- Completing an entry gives out no id. -/
@[simp] theorem PendingCommands.nextId_complete (t : PendingCommands) (id : Nat)
    (outcome : Option (ClientResult Json)) : (t.complete id outcome).1.nextId = t.nextId := by
  unfold PendingCommands.complete
  split <;> rfl

namespace Connection

/-- The outcome that an action has for the command with an id. -/
def Action.outcomeFor (id : Nat) (a : Action) : Option (ClientResult Json) :=
  a.frame?.bind (Frame.outcomeFor id)

variable {c c' : Connection} {n m id : Nat} {command : Command}

/-! ### The parts that commands see -/

/-- The table, the parked outcomes and the connection stay as they are. -/
structure SameCommands (c c' : Connection) : Prop where
  commands : c'.commands = c.commands
  outcomes : c'.outcomes = c.outcomes
  connected : c'.connected = c.connected

/-- The queue holds no command that it did not hold before. -/
def NoNewMessage (c c' : Connection) : Prop :=
  ∀ id command, Outgoing.command id command ∈ c'.outbox.messages →
    Outgoing.command id command ∈ c.outbox.messages

theorem noNewMessage_of_eq (h : c'.outbox.messages = c.outbox.messages) : NoNewMessage c c' :=
  fun _ _ hm => h ▸ hm

/-! ### Callers -/

/-- The command that a caller has under way. -/
def commandOf (c : Connection) (n : Nat) : Option Nat := c.callers[n]?.bind CallerState.id?

theorem commandOf_of_caller {s : CallerState} (h : c.callers[n]? = some s) :
    c.commandOf n = s.id? := by
  simp [commandOf, h]

/-- What a list of callers holds after one of them has got a new state. -/
theorem getElem?_set_caller {callers : List CallerState} {s s' : CallerState}
    (h : callers[n]? = some s) (m : Nat) :
    (callers.set n s')[m]? = if m = n then some s' else callers[m]? := by
  have hn : n < callers.length := (List.getElem?_eq_some_iff.1 h).1
  by_cases e : m = n
  · subst e
    rw [if_pos rfl, List.getElem?_set_self hn]
  · rw [if_neg e, List.getElem?_set_ne (Ne.symm e)]

theorem commandOf_set {s s' : CallerState} (at_ : c.callers[n]? = some s)
    (callers : c'.callers = c.callers.set n s') (m : Nat) :
    c'.commandOf m = if m = n then s'.id? else c.commandOf m := by
  rw [commandOf, callers, getElem?_set_caller at_]
  by_cases e : m = n
  · rw [if_pos e, if_pos e]
    rfl
  · rw [if_neg e, if_neg e]
    rfl

/-- New callers are only ready: those that are further were there before. -/
theorem caller_append {new : List CallerState} {s : CallerState}
    (callers : c'.callers = c.callers ++ new) (ready : ∀ s ∈ new, ∃ request, s = .ready request)
    (further : ∀ request, s ≠ .ready request) (m : Nat) :
    c'.callers[m]? = some s ↔ c.callers[m]? = some s := by
  rw [callers, List.getElem?_append]
  split
  · rfl
  · rename_i hm
    rw [List.getElem?_eq_none (Nat.le_of_not_lt hm)]
    refine ⟨fun hs => ?_, nofun⟩
    obtain ⟨request, rfl⟩ := ready s (List.mem_of_getElem? hs)
    exact absurd rfl (further request)

/-- New callers have no command under way. -/
theorem commandOf_append {new : List CallerState} (callers : c'.callers = c.callers ++ new)
    (ready : ∀ s ∈ new, ∃ request, s = .ready request) (m : Nat) :
    c'.commandOf m = c.commandOf m := by
  refine Option.ext fun id => ?_
  rw [commandOf, commandOf, Option.bind_eq_some_iff, Option.bind_eq_some_iff]
  refine exists_congr fun s => and_congr_left fun under => ?_
  exact caller_append callers ready (fun request e => by rw [e] at under; cases under) m

/-! ### Turns -/

/-- The command that a caller is about to start, and what it is for. -/
def starting (c : Connection) (n : Nat) : Option (Command × Purpose) :=
  match c.callers[n]? with
  | some (.ready (.command command)) => some (command, .plain)
  | some (.locking (.listen eventType receiver)) =>
    if c.lock.holder = some n ∧ c.subscriptions.isSubscribed eventType = false then
      some (.subscribeEvents (wireType eventType), .subscribe eventType receiver)
    else none
  | some (.locking (.unlisten eventType)) =>
    if c.lock.holder = some n then
      (c.subscriptions.hub.find? eventType).join.map fun id => (.unsubscribeEvents id, .unsubscribe)
    else none
  | _ => none

/-- What a turn of a caller does to commands. -/
inductive CommandTurn (c : Connection) (n : Nat) (c' : Connection) : Prop where
  /-- The caller has no command under way, neither before nor after. -/
  | aside (s s' : CallerState) (at_ : c.callers[n]? = some s) (open_ : s.isDone = false)
      (callers : c'.callers = c.callers.set n s') (before : s.id? = none) (after : s'.id? = none)
      (unchanged : SameCommands c c') (messages : c'.outbox.messages = c.outbox.messages)
  /-- A command gets the next id. -/
  | issued (s : CallerState) (command : Command) (purpose : Purpose)
      (at_ : c.callers[n]? = some s) (open_ : s.isDone = false) (before : s.id? = none)
      (starts : c.starting n = some (command, purpose))
      (callers : c'.callers = c.callers.set n (.sending c.commands.nextId command purpose))
      (connected : c.connected = true) (connected' : c'.connected = true)
      (commands : c'.commands = c.commands.register) (outcomes : c'.outcomes = c.outcomes)
      (messages : c'.outbox.messages = c.outbox.messages)
  /-- A command does not get into the queue. -/
  | stranded (id : Nat) (command : Command) (purpose : Purpose) (reason : String)
      (at_ : c.callers[n]? = some (.sending id command purpose))
      (callers : c'.callers =
        c.callers.set n (.done (purpose.answer (.error (.connectionLost reason)))))
      (commands : c'.commands = (c.commands.forget id).1) (outcomes : c'.outcomes = c.outcomes)
      (connected : c'.connected = c.connected)
      (messages : c'.outbox.messages = c.outbox.messages)
  /-- A command gets into the queue. -/
  | queued (id : Nat) (command : Command) (purpose : Purpose)
      (at_ : c.callers[n]? = some (.sending id command purpose))
      (callers : c'.callers = c.callers.set n (.awaiting id purpose))
      (unchanged : SameCommands c c')
      (messages : c'.outbox.messages = c.outbox.messages ++ [.command id command])
  /-- A command ends with the outcome that is parked for it. -/
  | answered (id : Nat) (purpose : Purpose) (outcome : ClientResult Json)
      (at_ : c.callers[n]? = some (.awaiting id purpose))
      (parked : (id, outcome) ∈ c.outcomes)
      (callers : c'.callers = c.callers.set n (.done (purpose.answer outcome)))
      (commands : c'.commands = c.commands)
      (outcomes : c'.outcomes = c.outcomes.filter fun o => o.1 ≠ id)
      (connected : c'.connected = c.connected)
      (messages : c'.outbox.messages = c.outbox.messages)
  /-- The connection is closed. -/
  | closed (at_ : c.callers[n]? = some .closing)
      (callers : c'.callers = c.callers.set n (.done (.ok (.json .null))))
      (commands : c'.commands = (c.commands.failAll "closed by client").1)
      (outcomes : c'.outcomes = (c.deliver (c.commands.failAll "closed by client")).outcomes)
      (down : c'.connected = false) (messages : NoNewMessage c c')

/-- What is taken out was recorded. -/
theorem find?_of_take {s s' : Subscriptions} {eventType : String} {handle : Option Nat}
    (h : s.take eventType = some (s', handle)) : s.hub.find? eventType = some handle := by
  obtain ⟨recorded, found, h⟩ := Option.map_eq_some_iff.1 h
  cases h
  exact found

theorem map_snd_withId (id : Nat) (outcome : ClientResult Json) :
    (outcome.map fun value => (id, value)).map Prod.snd = outcome := by
  cases outcome <;> rfl

theorem Turn.commandTurn (h : Turn c n c') : CommandTurn c n c' := by
  cases h with
  | command at_ connected =>
    refine .issued _ _ _ at_ rfl rfl ?_ rfl connected connected rfl rfl rfl
    simp only [starting, at_]
  | commandLost at_ down => exact .aside _ _ at_ rfl rfl rfl rfl ⟨rfl, rfl, rfl⟩ rfl
  | listen at_ => exact .aside _ _ at_ rfl rfl rfl rfl ⟨rfl, rfl, rfl⟩ rfl
  | unlisten at_ => exact .aside _ _ at_ rfl rfl rfl rfl ⟨rfl, rfl, rfl⟩ rfl
  | close at_ connected => exact .aside _ _ at_ rfl rfl rfl rfl ⟨rfl, rfl, rfl⟩ rfl
  | aside at_ kind => exact .aside _ _ at_ rfl rfl rfl rfl ⟨rfl, rfl, rfl⟩ rfl
  | join at_ holds recorded => exact .aside _ _ at_ rfl rfl rfl rfl ⟨rfl, rfl, rfl⟩ rfl
  | subscribe at_ holds unrecorded connected =>
    refine .issued _ _ _ at_ rfl rfl ?_ rfl connected connected rfl rfl rfl
    simp only [starting, at_]
    rw [if_pos ⟨holds, unrecorded⟩]
  | subscribeLost at_ holds unrecorded down =>
    exact .aside _ _ at_ rfl rfl rfl rfl ⟨rfl, rfl, rfl⟩ rfl
  | untaken at_ holds untaken => exact .aside _ _ at_ rfl rfl rfl rfl ⟨rfl, rfl, rfl⟩ rfl
  | taken at_ holds take untold => exact .aside _ _ at_ rfl rfl rfl rfl ⟨rfl, rfl, rfl⟩ rfl
  | unsubscribe at_ holds take connected =>
    refine .issued _ _ _ at_ rfl rfl ?_ rfl connected connected rfl rfl rfl
    simp only [starting, at_]
    rw [if_pos holds, find?_of_take take]
    rfl
  | stranded at_ stopped => exact .stranded _ _ _ _ at_ rfl rfl rfl rfl rfl
  | queued at_ running place => exact .queued _ _ _ at_ rfl ⟨rfl, rfl, rfl⟩ rfl
  | @answered id purpose outcome at_ parked =>
    refine .answered id purpose outcome at_ (List.mem_of_find?_eq_some parked) ?_ rfl rfl rfl rfl
    show List.set _ _ (CallerState.done (purpose.answer ((outcome.map _).map Prod.snd))) = _
    rw [map_snd_withId]
  | closed at_ stopped => exact .closed at_ rfl rfl rfl rfl (noNewMessage_of_eq rfl)
  | farewell at_ running place =>
    -- The farewell is a message, but no command.
    refine .closed at_ rfl rfl rfl rfl (fun id command hm => ?_)
    have hm : Outgoing.command id command ∈ c.outbox.messages ++ [.close] := hm
    simpa using hm

/-! ### All other actions -/

/-- What an action that is no turn does to commands. -/
inductive CommandEvent (c : Connection) (a : Action) (c' : Connection) : Prop where
  | quiet (silent : ∀ id, a.outcomeFor id = none ∨ c.reading = false)
      (callers : ∃ new, c'.callers = c.callers ++ new ∧ ∀ s ∈ new, ∃ request, s = .ready request)
      (unchanged : SameCommands c c') (messages : NoNewMessage c c')
  /-- An answer to a command arrives. -/
  | answer (id : Nat) (outcome : ClientResult Json) (mine : a.outcomeFor id = some outcome)
      (other : ∀ i, i ≠ id → a.outcomeFor i = none)
      (callers : c'.callers = c.callers)
      (commands : c'.commands = (c.commands.complete id (some outcome)).1)
      (outcomes : c'.outcomes = (c.deliver (c.commands.complete id (some outcome))).outcomes)
      (connected : c'.connected = c.connected) (messages : c'.outbox.messages = c.outbox.messages)
  /-- The connection goes down. -/
  | down (silent : ∀ id, a.outcomeFor id = none) (callers : c'.callers = c.callers)
      (commands : c'.commands = (c.commands.failAll (a.farewell c)).1)
      (outcomes : c'.outcomes = (c.deliver (c.commands.failAll (a.farewell c))).outcomes)
      (down : c'.connected = false) (messages : NoNewMessage c c')

theorem CommandEvent.idle {a : Action} (silent : ∀ id, a.outcomeFor id = none ∨ c.reading = false)
    (callers : c'.callers = c.callers) (unchanged : SameCommands c c')
    (messages : c'.outbox.messages = c.outbox.messages) : CommandEvent c a c' :=
  .quiet silent ⟨[], by simp [callers], by simp⟩ unchanged (noNewMessage_of_eq messages)

theorem outcomeFor_of_frame {a : Action} {frame : Frame} (h : a.frame? = some frame) (id : Nat) :
    a.outcomeFor id = frame.outcomeFor id := by
  rw [Action.outcomeFor, h, Option.bind_some]

theorem handle_commandEvent {a : Action} {frame : Frame} (h : a.frame? = some frame) :
    CommandEvent c a (c.handle frame) := by
  have same := outcomeFor_of_frame h
  cases frame with
  | result frame =>
    refine .answer frame.id (frame.outcome.mapError .command) ?_ (fun i hi => ?_) rfl rfl rfl rfl rfl
    · simp [same, Frame.outcomeFor]
    · simp [same, Frame.outcomeFor, Ne.symm hi]
  | pong id =>
    refine .answer id (.ok .null) ?_ (fun i hi => ?_) rfl rfl rfl rfl rfl
    · simp [same, Frame.outcomeFor]
    · simp [same, Frame.outcomeFor, Ne.symm hi]
  | event frame => exact .idle (fun id => .inl (same id)) rfl ⟨rfl, rfl, rfl⟩ rfl
  | authRequired version => exact .idle (fun id => .inl (same id)) rfl ⟨rfl, rfl, rfl⟩ rfl
  | authOk version => exact .idle (fun id => .inl (same id)) rfl ⟨rfl, rfl, rfl⟩ rfl
  | authInvalid message => exact .idle (fun id => .inl (same id)) rfl ⟨rfl, rfl, rfl⟩ rfl
  | unknown => exact .idle (fun id => .inl (same id)) rfl ⟨rfl, rfl, rfl⟩ rfl

/-- What an action does to commands: a caller takes a turn, or something else
happens around them. -/
theorem Step.commands {a : Action} (h : Step c a c') :
    (∃ n, a = .run n ∧ CommandTurn c n c') ∨ CommandEvent c a c' := by
  cases h with
  | @turn n _ turn => exact .inl ⟨n, rfl, turn.commandTurn⟩
  | idle silent =>
    -- Nothing came, or it came to a side that reads no more.
    refine .inr (.idle (fun id => silent.symm.imp_left fun h => ?_) rfl ⟨rfl, rfl, rfl⟩ rfl)
    rw [Action.outcomeFor, h, Option.bind_none]
  | @call request held =>
    exact .inr (.quiet (fun _ => .inl rfl) ⟨[.ready request], rfl, by simp⟩ ⟨rfl, rfl, rfl⟩
      (noNewMessage_of_eq rfl))
  | take idle take =>
    refine .inr (.quiet (fun _ => .inl rfl) ⟨[], (List.append_nil _).symm, nofun⟩ ⟨rfl, rfl, rfl⟩
      fun _ _ hm => ?_)
    rw [messages_take? take]
    exact List.mem_cons_of_mem _ hm
  | finish idle empty down => exact .inr (.idle (fun _ => .inl rfl) rfl ⟨rfl, rfl, rfl⟩ rfl)
  | written busy works => exact .inr (.idle (fun _ => .inl rfl) rfl ⟨rfl, rfl, rfl⟩ rfl)
  | unwritten busy broken held =>
    exact .inr (.down (fun _ => rfl) rfl rfl rfl rfl (noNewMessage_of_eq rfl))
  | unheard busy broken free => exact .inr (.idle (fun _ => .inl rfl) rfl ⟨rfl, rfl, rfl⟩ rfl)
  | stop closing =>
    exact .inr (.quiet (fun _ => .inl rfl) ⟨[], (List.append_nil _).symm, nofun⟩ ⟨rfl, rfl, rfl⟩
      nofun)
  | frame reading brings => exact .inr (handle_commandEvent brings)
  | farewell reading silent =>
    refine .inr (.down (fun id => ?_) rfl rfl rfl rfl (noNewMessage_of_eq rfl))
    rw [Action.outcomeFor, silent, Option.bind_none]
  | release => exact .inr (.idle (fun _ => .inl rfl) rfl ⟨rfl, rfl, rfl⟩ rfl)
  | breakWrites => exact .inr (.idle (fun _ => .inl rfl) rfl ⟨rfl, rfl, rfl⟩ rfl)

/-! ### What steps leave alone -/

theorem CommandTurn.caller_other (t : CommandTurn c m c') (other : n ≠ m) :
    c'.callers[n]? = c.callers[n]? := by
  cases t <;> rw [‹c'.callers = c.callers.set m _›, List.getElem?_set_ne (Ne.symm other)]

theorem CommandTurn.caller (t : CommandTurn c m c') :
    ∃ s, c.callers[m]? = some s ∧ s.isDone = false := by
  cases t <;> first | exact ⟨_, ‹_›, ‹_›⟩ | exact ⟨_, ‹c.callers[m]? = some _›, rfl⟩

theorem CommandEvent.caller {a : Action} {s : CallerState} (e : CommandEvent c a c')
    (at_ : c.callers[n]? = some s) : c'.callers[n]? = some s := by
  cases e with
  | quiet silent callers unchanged messages =>
    obtain ⟨new, callers, -⟩ := callers
    rw [callers, List.getElem?_append_left (List.getElem?_eq_some_iff.1 at_).1, at_]
  | answer i outcome mine other callers commands outcomes connected messages => rw [callers, at_]
  | down silent callers commands outcomes down messages => rw [callers, at_]

/-- A message that a turn puts into the queue is of the caller's own command. -/
theorem CommandTurn.message (t : CommandTurn c m c')
    (h : Outgoing.command id command ∈ c'.outbox.messages) :
    Outgoing.command id command ∈ c.outbox.messages ∨ c.commandOf m = some id := by
  cases t with
  | queued i command' purpose at_ callers unchanged messages =>
    rw [messages, List.mem_append, List.mem_singleton] at h
    refine h.imp_right fun h => ?_
    cases h
    exact commandOf_of_caller at_
  | closed at_ callers commands outcomes down messages => exact .inl (messages _ _ h)
  | _ => exact .inl (‹c'.outbox.messages = _› ▸ h)

theorem CommandEvent.message {a : Action} (e : CommandEvent c a c')
    (h : Outgoing.command id command ∈ c'.outbox.messages) :
    Outgoing.command id command ∈ c.outbox.messages := by
  cases e with
  | quiet silent callers unchanged messages => exact messages _ _ h
  | answer i outcome mine other callers commands outcomes connected messages => exact messages ▸ h
  | down silent callers commands outcomes down messages => exact messages _ _ h

theorem CommandTurn.nextId_le (t : CommandTurn c m c') :
    c.commands.nextId ≤ c'.commands.nextId := by
  cases t with
  | aside s s' at_ open_ callers before after unchanged messages =>
    exact Nat.le_of_eq (congrArg PendingCommands.nextId unchanged.commands).symm
  | issued s command purpose at_ open_ before starts callers connected connected'
      commands outcomes _ =>
    rw [commands]
    exact Nat.le_succ _
  | stranded i command purpose reason at_ callers commands outcomes connected messages =>
    rw [commands]
    exact Nat.le_of_eq (PendingCommands.nextId_complete c.commands i none).symm
  | queued i command purpose at_ callers unchanged messages =>
    exact Nat.le_of_eq (congrArg PendingCommands.nextId unchanged.commands).symm
  | answered i purpose outcome at_ parked callers commands outcomes connected messages =>
    exact Nat.le_of_eq (congrArg PendingCommands.nextId commands).symm
  | closed at_ callers commands outcomes down messages => exact commands ▸ Nat.le_refl _

theorem CommandEvent.nextId_le {a : Action} (e : CommandEvent c a c') :
    c.commands.nextId ≤ c'.commands.nextId := by
  cases e with
  | quiet silent callers unchanged messages =>
    exact Nat.le_of_eq (congrArg PendingCommands.nextId unchanged.commands).symm
  | answer i outcome mine other callers commands outcomes connected messages =>
    rw [commands]
    exact Nat.le_of_eq (PendingCommands.nextId_complete c.commands i (some outcome)).symm
  | down silent callers commands outcomes down messages => exact commands ▸ Nat.le_refl _

/-- Only a caller's own turn changes it. -/
theorem caller_act {a : Action} {s : CallerState} (other : a ≠ .run n)
    (at_ : c.callers[n]? = some s) : (c.act a).callers[n]? = some s := by
  rcases (c.act_step a).commands with ⟨m, rfl, t⟩ | e
  · rw [t.caller_other (fun e => other (e ▸ rfl)), at_]
  · exact e.caller at_

theorem nextId_le_act (c : Connection) (a : Action) :
    c.commands.nextId ≤ (c.act a).commands.nextId := by
  rcases (c.act_step a).commands with ⟨m, -, t⟩ | e
  · exact t.nextId_le
  · exact e.nextId_le

/-- Nobody gets an id that was given out before. -/
theorem CommandTurn.owner (t : CommandTurn c m c') (given : id < c.commands.nextId)
    (h : c'.commandOf n = some id) : c.commandOf n = some id := by
  by_cases e : n = m
  case neg => rwa [commandOf, t.caller_other e] at h
  case pos =>
    subst e
    cases t with
    | aside s s' at_ open_ callers before after unchanged messages =>
      rw [commandOf_set at_ callers, if_pos rfl, after] at h
      cases h
    | issued s command purpose at_ open_ before starts callers connected connected'
        commands outcomes _ =>
      -- The only id that is new is the next one.
      rw [commandOf_set at_ callers, if_pos rfl] at h
      cases h
      exact absurd given (Nat.lt_irrefl _)
    | queued i command purpose at_ callers unchanged messages =>
      rw [commandOf_set at_ callers, if_pos rfl] at h
      exact (commandOf_of_caller at_).trans h
    | stranded i command purpose reason at_ callers commands outcomes connected messages =>
      rw [commandOf_set at_ callers, if_pos rfl] at h
      cases h
    | answered i purpose outcome at_ parked callers commands outcomes connected messages =>
      rw [commandOf_set at_ callers, if_pos rfl] at h
      cases h
    | closed at_ callers commands outcomes down messages =>
      rw [commandOf_set at_ callers, if_pos rfl] at h
      cases h

theorem CommandEvent.owner {a : Action} (e : CommandEvent c a c') (n : Nat) :
    c'.commandOf n = c.commandOf n := by
  cases e with
  | quiet silent callers unchanged messages =>
    obtain ⟨new, callers, ready⟩ := callers
    exact commandOf_append callers ready n
  | answer i outcome mine other callers commands outcomes connected messages =>
    rw [commandOf, commandOf, callers]
  | down silent callers commands outcomes down messages => rw [commandOf, commandOf, callers]

/-- A turn leaves its caller further than ready. -/
theorem Turn.further (h : Turn c n c') :
    ∃ s s', c.callers[n]? = some s ∧ c'.callers = c.callers.set n s' ∧
      ∀ request, s' ≠ .ready request := by
  cases h <;> exact ⟨_, _, ‹c.callers[n]? = some _›, rfl, nofun⟩

/-- A caller that is about to begin was so before, or has just come. -/
theorem ready_act {a : Action} {request : Request}
    (h : (c.act a).callers[n]? = some (.ready request)) :
    c.callers[n]? = some (.ready request) ∨ a = .call request := by
  have step := c.act_step a
  generalize c.act a = c' at step h
  cases step with
  | turn turn =>
    obtain ⟨s, s', at_, callers, further⟩ := turn.further
    rw [callers, getElem?_set_caller at_] at h
    split at h
    · exact absurd (Option.some.inj h) (further request)
    · exact .inl h
  | @call request' held =>
    have h : (c.callers ++ [.ready request'])[n]? = some (.ready request) := h
    rw [List.getElem?_append] at h
    split at h
    · exact .inl h
    · rw [List.getElem?_singleton] at h
      split at h
      · cases h
        exact .inr rfl
      · cases h
  | frame reading brings =>
    rw [handle_callers] at h
    exact .inl h
  | _ => exact .inl h

/-- A caller that is done stays so, with the same result. -/
theorem done_act {result : ClientResult CallValue} (a : Action)
    (h : c.callers[n]? = some (.done result)) : (c.act a).callers[n]? = some (.done result) := by
  rcases (c.act_step a).commands with ⟨m, -, t⟩ | e
  · rw [t.caller_other (fun e => ?_), h]
    -- A caller that is done takes no turn.
    obtain ⟨s, at_, open_⟩ := t.caller
    rw [← e, h] at at_
    cases at_
    cases open_
  · exact e.caller h

theorem done_actAll {result : ClientResult CallValue} (actions : List Action)
    (h : c.callers[n]? = some (.done result)) :
    (c.actAll actions).callers[n]? = some (.done result) :=
  actAll_induction (P := fun c => c.callers[n]? = some (.done result))
    (fun _ a h => done_act a h) h actions

end Connection

end HubAutomation
