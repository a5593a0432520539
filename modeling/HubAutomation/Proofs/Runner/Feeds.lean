import HubAutomation.Proofs.Client.Handshakes
import HubAutomation.Runner

/-!
# The session of a run

All that the hub can do to the session of a run: it answers the call for events,
it sends events, and it ends the connection.

- `Session.asking`, `Session.listening`, `Session.ended`: the stages of the
  session, with the events that were routed to the stream of state changes.
- `Incoming.answer?`, `Incoming.routed?`: the answer to the call for events, and
  the event that goes to the stream.
- `Session.deliver_asking`, `Session.deliver_listening`, `Session.deliver_ended`:
  what a message of the hub does at each stage.
-/

namespace HubAutomation

namespace Frame

/-- The answer to the call for events, which is the first command. -/
def answer? : Frame → Option (ClientResult Json)
  | .result f => if f.id = 1 then some (f.outcome.mapError .command) else none
  | .pong id => if id = 1 then some (.ok .null) else none
  | _ => none

/-- The event that goes to the stream of state changes: the hub sends it for the
first command, or it is of that type. -/
def routed? : Frame → Option (Event Json)
  | .event f => if f.id = some 1 ∨ f.event.type = stateChanged then some f.event else none
  | _ => none

end Frame

namespace Incoming

/-- The frame of a message, if it has one. -/
def frame? (stamp : Stamp) : Incoming → Option Frame
  | .text t => (Frame.decode stamp t).toOption
  | _ => none

def answer? (stamp : Stamp) (item : Incoming) : Option (ClientResult Json) :=
  (item.frame? stamp).bind Frame.answer?

def routed? (stamp : Stamp) (item : Incoming) : Option (Event Json) :=
  (item.frame? stamp).bind Frame.routed?

end Incoming

namespace Session

/-! ### Tasks -/

/-- Nobody wakes up where nobody can run. -/
theorem wake_quiet {s : Session} (quiet : ∀ t ∈ s.allTasks, s.canRun t = false) : s.wake = s := by
  have nobody : (s.allTasks.filter fun t => s.canRun t && !s.tasks.contains t) = [] := by
    rw [List.filter_eq_nil_iff]
    intro t mem
    simp [quiet t mem]
  rw [wake, nobody, List.append_nil]

/-- Nothing happens where nobody can run. -/
theorem runTasks_quiet {s : Session} (none_ : s.tasks = [])
    (quiet : ∀ t ∈ s.allTasks, s.canRun t = false) (fuel : Nat) : runTasks fuel s = s := by
  cases fuel with
  | zero => rfl
  | succ fuel => rw [runTasks, wake_quiet quiet, none_]

/-- The first task in line runs. -/
theorem runTasks_succ {s s' : Session} {t : Task} {rest : List Task} {fuel : Nat}
    (next : s.wake.tasks = t :: rest)
    (ran : ({ s.wake with tasks := rest }.runTask t) = s') :
    runTasks (fuel + 1) s = runTasks fuel s' := by
  rw [runTasks, next]
  exact congrArg _ ran

/-! ### The stages -/

/-- The call for events is with the hub. -/
def asking (capacity : Nat) (events : List (Event Json)) : Session where
  connection :=
    { connected := true
      commands := ⟨2, [1], [1]⟩
      outcomes := []
      subscriptions := ⟨capacity, [⟨Channel.windowFor capacity, events, 1, false⟩],
        [(stateChanged, 0)], [(1, stateChanged)], []⟩
      lock := ⟨some 0, []⟩
      outbox := .empty
      callers := [.awaiting 1 (.subscribe stateChanged ⟨0, 0⟩)]
      reading := true
      writer := .idle
      held := true
      broken := none
      written := [.command 1 (.subscribeEvents (some stateChanged))] }
  tasks := []
  calls := [.listen .typed stateChanged]
  listeners := []

/-- The call for events has given a listener, which has read some of them. -/
def listening (capacity : Nat) (events : List (Event Json)) (next : Nat) : Session where
  connection :=
    { (asking capacity events).connection with
      commands := ⟨2, [], []⟩
      subscriptions := ⟨capacity, [⟨Channel.windowFor capacity, events, 1, false⟩],
        [(stateChanged, 0)], [(1, stateChanged)], [(stateChanged, some 1)]⟩
      lock := .free
      callers := [.done (.ok (.listener stateChanged ⟨0, 0⟩))] }
  tasks := []
  calls := [.listen .typed stateChanged]
  listeners := [⟨0, .typed, ⟨0, next⟩, true, []⟩]

/-- The connection is down. The listener still has what it has not read. -/
def ended (capacity : Nat) (events : List (Event Json)) (next : Nat) : Session where
  connection :=
    { (listening capacity events next).connection with
      connected := false
      subscriptions := ⟨capacity, [⟨Channel.windowFor capacity, events, 1, true⟩], [], [],
        [(stateChanged, some 1)]⟩
      reading := false
      writer := .stopped
      written := [.command 1 (.subscribeEvents (some stateChanged)), .closed] }
  tasks := []
  calls := [.listen .typed stateChanged]
  listeners := [⟨0, .typed, ⟨0, next⟩, true, []⟩]

variable (capacity : Nat) (events : List (Event Json)) (next : Nat)

/-- While the subscription is on its way, nobody can run. -/
theorem quiet_asking : ∀ t ∈ (asking capacity events).allTasks,
    (asking capacity events).canRun t = false := by
  intro t mem
  have two : t = .caller 0 ∨ t = .writer := by
    simpa [allTasks, asking, Outbox.empty, eq_comm] using mem
  rcases two with rfl | rfl <;> rfl

/-- While the runner waits for events, nobody can run. -/
theorem quiet_listening : ∀ t ∈ (listening capacity events next).allTasks,
    (listening capacity events next).canRun t = false := by
  intro t mem
  have two : t = .caller 0 ∨ t = .writer := by
    simpa [allTasks, listening, asking, Outbox.empty, eq_comm] using mem
  rcases two with rfl | rfl <;> rfl

/-- After the end, nobody can run. -/
theorem quiet_ended : ∀ t ∈ (ended capacity events next).allTasks,
    (ended capacity events next).canRun t = false := by
  intro t mem
  have two : t = .caller 0 ∨ t = .writer := by
    simpa [allTasks, ended, listening, asking, Outbox.empty, eq_comm] using mem
  rcases two with rfl | rfl <;> rfl

theorem settle_asking : (asking capacity events).settle = asking capacity events := by
  rw [settle, runTasks_quiet rfl (quiet_asking capacity events)]
  rfl

theorem settle_listening : (listening capacity events next).settle =
    listening capacity events next := by
  rw [settle, runTasks_quiet rfl (quiet_listening capacity events next)]
  rfl

theorem settle_ended : (ended capacity events next).settle = ended capacity events next := by
  rw [settle, runTasks_quiet rfl (quiet_ended capacity events next)]
  rfl

/-! ### What the hub does -/

/-- What brings no frame does nothing, unless it is the end. -/
theorem receive_no_frame {c : Connection} {stamp : Stamp} {item : Incoming}
    (silent : item.frame? stamp = none) (goesOn : item.isEnd = false) :
    c.receive stamp item = c := by
  unfold Connection.receive
  split
  · rfl
  · cases item with
    | close | fault | ended => cases goesOn
    | binary | ping => rfl
    | text t =>
      dsimp only
      cases decoded : Frame.decode stamp t with
      | error cause => rfl
      | ok frame => simp [Incoming.frame?, decoded, Except.toOption] at silent

/-- What brings a frame has it handled, as long as anybody reads. -/
theorem receive_frame {c : Connection} {stamp : Stamp} {item : Incoming} {frame : Frame}
    (brings : item.frame? stamp = some frame) (reading : c.reading = true) :
    c.receive stamp item = c.handle frame := by
  cases item with
  | close | fault | ended | binary | ping => cases brings
  | text t =>
    cases decoded : Frame.decode stamp t with
    | error cause => simp [Incoming.frame?, decoded, Except.toOption] at brings
    | ok own =>
      have same : own = frame := by simpa [Incoming.frame?, decoded, Except.toOption] using brings
      rw [Connection.receive, reading]
      simp [decoded, same]

/-- A session that is told nothing new. -/
theorem act_receive {s : Session} {c : Connection} {stamp : Stamp} {item : Incoming}
    (received : s.connection.receive stamp item = c) :
    s.deliver stamp [item] = { s with connection := c }.settle := by
  show Session.settle { s with connection := s.connection.receive stamp item } = _
  rw [received]

/-- The stream gets an event that is routed to it. -/
theorem dispatch_routed (window : Nat) (hub : Dict (Option Nat)) (frame : EventFrame) :
    Subscriptions.dispatch ⟨capacity, [⟨window, events, 1, false⟩], [(stateChanged, 0)],
        [(1, stateChanged)], hub⟩ frame.id frame.event =
      ⟨capacity, [⟨window, events ++ (Frame.event frame).routed?.toList, 1, false⟩],
        [(stateChanged, 0)], [(1, stateChanged)], hub⟩ := by
  obtain ⟨id, event⟩ := frame
  by_cases tagged : id = some 1
  · subst tagged
    have routed : (Frame.event ⟨some 1, event⟩).routed? = some event := by simp [Frame.routed?]
    rw [routed]
    rfl
  · have target : Subscriptions.target ⟨capacity, [⟨window, events, 1, false⟩],
        [(stateChanged, 0)], [(1, stateChanged)], hub⟩ id event = event.type := by
      cases id with
      | none => rfl
      | some n =>
        have other : ¬ 1 = n := fun same => tagged (congrArg some same.symm)
        simp [Subscriptions.target, other]
    unfold Subscriptions.dispatch
    dsimp only
    rw [target]
    by_cases own : event.type = stateChanged
    · have routed : (Frame.event ⟨id, event⟩).routed? = some event := by
        simp [Frame.routed?, own]
      rw [routed, own]
      rfl
    · have routed : (Frame.event ⟨id, event⟩).routed? = none := by
        simp [Frame.routed?, tagged, own]
      have noStream : Dict.find? [(stateChanged, 0)] event.type = none := if_neg (Ne.symm own)
      rw [routed, noStream, Option.toList_none, List.append_nil]

/-- Nothing comes of an answer to a command that nobody waits for. -/
theorem complete_of_not_contains {t : PendingCommands} {id : Nat} (unknown : t.contains id = false)
    (outcome : Option (ClientResult Json)) : t.complete id outcome = (t, []) := by
  rw [PendingCommands.complete, unknown]
  rfl

/-- Before the answer, frames are only kept if they are for the subscription. -/
theorem handle_asking (frame : Frame) (unanswered : frame.answer? = none) :
    (asking capacity events).connection.handle frame =
      (asking capacity (events ++ frame.routed?.toList)).connection := by
  have unknown (id : Nat) (other : id ≠ 1) :
      (asking capacity events).connection.commands.contains id = false := by
    simp [PendingCommands.contains, asking, other]
  cases frame with
  | event frame =>
    have sent := dispatch_routed capacity events (Channel.windowFor capacity) [] frame
    exact congrArg (fun subscriptions => { (asking capacity events).connection with subscriptions })
      sent
  | result f =>
    have other : f.id ≠ 1 := by
      intro own
      simp [Frame.answer?, own] at unanswered
    simp only [Frame.routed?, Option.toList_none, List.append_nil]
    rw [Connection.handle, PendingCommands.resolve, complete_of_not_contains (unknown _ other)]
    rfl
  | pong id =>
    have other : id ≠ 1 := by
      intro own
      simp [Frame.answer?, own] at unanswered
    simp only [Frame.routed?, Option.toList_none, List.append_nil]
    rw [Connection.handle, PendingCommands.resolvePong, complete_of_not_contains (unknown _ other)]
    rfl
  | authRequired | authOk | authInvalid | unknown =>
    simp only [Frame.routed?, Option.toList_none, List.append_nil]
    rfl

/-- After the answer, a frame for the subscription is one event more. -/
theorem handle_listening (frame : Frame) :
    (listening capacity events next).connection.handle frame =
      (listening capacity (events ++ frame.routed?.toList) next).connection := by
  cases frame with
  | event frame =>
    have sent := dispatch_routed capacity events (Channel.windowFor capacity)
      [(stateChanged, some 1)] frame
    exact congrArg
      (fun subscriptions => { (listening capacity events next).connection with subscriptions }) sent
  | result | pong | authRequired | authOk | authInvalid | unknown =>
    simp only [Frame.routed?, Option.toList_none, List.append_nil]
    rfl

/-- The outcome of the call for events is there. -/
def answered (value : Json) : Session :=
  { (asking capacity events) with
    connection :=
      { (asking capacity events).connection with
        commands := ⟨2, [], []⟩
        outcomes := [(1, .ok value)] } }

/-- The answer makes the caller's command ready to be collected. -/
theorem handle_answer {frame : Frame} {value : Json} (answer : frame.answer? = some (.ok value)) :
    (asking capacity events).connection.handle frame =
      (answered capacity events value).connection := by
  cases frame with
  | result f =>
    have own : f.id = 1 := by
      by_contra other
      simp [Frame.answer?, other] at answer
    have outcome : f.outcome.mapError ClientError.command = .ok value := by
      simpa [Frame.answer?, own] using answer
    rw [Connection.handle, PendingCommands.resolve, own, outcome]
    rfl
  | pong id =>
    have own : id = 1 := by
      by_contra other
      simp [Frame.answer?, other] at answer
    have outcome : Json.null = value := by simpa [Frame.answer?, own] using answer
    rw [Connection.handle, PendingCommands.resolvePong, own, ← outcome]
    rfl
  | event | authRequired | authOk | authInvalid | unknown => cases answer

/-- With the answer, the runner begins to listen. -/
theorem settle_answered (value : Json) :
    (answered capacity events value).settle = listening capacity events 0 := by
  have work : (answered capacity events value).work = 3 := rfl
  have concluded : runTasks 3 (answered capacity events value) =
      runTasks 2 { listening capacity events 0 with listeners := [] } :=
    @runTasks_succ _ _ (.caller 0) [] _ rfl rfl
  have quiet : runTasks 2 { listening capacity events 0 with listeners := [] } =
      { listening capacity events 0 with listeners := [] } :=
    runTasks_quiet (s := { listening capacity events 0 with listeners := [] }) rfl
      (quiet_listening capacity events 0) 2
  rw [settle, work, concluded, quiet]
  rfl

/-- The hub has ended the connection, and the writing side has not noticed. -/
def cut : Session :=
  { listening capacity events next with
    connection :=
      { (ended capacity events next).connection with
        writer := .idle
        written := (listening capacity events next).connection.written } }

/-- A connection that is cut ends the stream. -/
theorem settle_cut : (cut capacity events next).settle = ended capacity events next := by
  have work : (cut capacity events next).work = 1 := rfl
  have stopped : runTasks 1 (cut capacity events next) = runTasks 0 (ended capacity events next) :=
    @runTasks_succ _ _ .writer [] _ rfl rfl
  rw [settle, work, stopped]
  rfl

/-- The end of the hub's messages ends the reading. -/
theorem receive_end {c : Connection} (reading : c.reading = true) (stamp : Stamp)
    {item : Incoming} (isLast : item.isEnd = true) :
    ∃ reason, c.receive stamp item = c.stopReading reason := by
  unfold Connection.receive
  rw [reading]
  cases item with
  | text | binary | ping => cases isLast
  | close | fault | ended => exact ⟨_, rfl⟩

/-! ### The stages -/

variable {capacity events next} {stamp : Stamp} {item : Incoming}

/-- The call for events begins. -/
theorem settle_call (capacity : Nat) :
    ((start capacity none).call (.listen .typed stateChanged)).settle = asking capacity [] := by
  have work : ((start capacity none).call (.listen .typed stateChanged)).work = 9 := rfl
  have asked : runTasks 9 ((start capacity none).call (.listen .typed stateChanged)) =
      runTasks 8 { asking capacity [] with
        connection := { (asking capacity []).connection with
          outbox := ⟨[.command 1 (.subscribeEvents (some stateChanged))], [], []⟩
          written := [] } } :=
    @runTasks_succ _ _ (.caller 0) [] _ rfl rfl
  have written : runTasks 8 { asking capacity [] with
        connection := { (asking capacity []).connection with
          outbox := ⟨[.command 1 (.subscribeEvents (some stateChanged))], [], []⟩
          written := [] } } = runTasks 7 (asking capacity []) :=
    @runTasks_succ _ _ .writer [] _ rfl rfl
  rw [settle, work, asked, written, runTasks_quiet rfl (quiet_asking capacity [])]
  rfl

/-- What the hub says before its answer. -/
theorem deliver_asking (goesOn : item.isEnd = false) (unanswered : item.answer? stamp = none) :
    (asking capacity events).deliver stamp [item] =
      asking capacity (events ++ (item.routed? stamp).toList) := by
  cases brings : item.frame? stamp with
  | none =>
    rw [act_receive (receive_no_frame brings goesOn), Incoming.routed?, brings]
    simp only [Option.bind_none, Option.toList_none, List.append_nil]
    exact settle_asking capacity events
  | some frame =>
    rw [Incoming.answer?, brings] at unanswered
    rw [Incoming.routed?, brings, act_receive ((receive_frame brings rfl).trans
      (handle_asking capacity events frame unanswered))]
    exact settle_asking capacity _

theorem deliver_answer {value : Json} (answer : item.answer? stamp = some (.ok value)) :
    (asking capacity events).deliver stamp [item] = listening capacity events 0 := by
  obtain ⟨frame, brings, answer⟩ := Option.bind_eq_some_iff.1 answer
  rw [act_receive ((receive_frame brings rfl).trans (handle_answer capacity events answer))]
  exact settle_answered capacity events value

/-- What the hub says after its answer. -/
theorem deliver_listening (goesOn : item.isEnd = false) :
    (listening capacity events next).deliver stamp [item] =
      listening capacity (events ++ (item.routed? stamp).toList) next := by
  cases brings : item.frame? stamp with
  | none =>
    rw [act_receive (receive_no_frame brings goesOn), Incoming.routed?, brings]
    simp only [Option.bind_none, Option.toList_none, List.append_nil]
    exact settle_listening capacity events next
  | some frame =>
    rw [Incoming.routed?, brings,
      act_receive ((receive_frame brings rfl).trans (handle_listening capacity events next frame))]
    exact settle_listening capacity _ next

/-- How the session ends. -/
theorem deliver_end (isLast : item.isEnd = true) :
    (listening capacity events next).deliver stamp [item] = ended capacity events next := by
  obtain ⟨reason, stops⟩ :=
    receive_end (c := (listening capacity events next).connection) rfl stamp isLast
  have down : (listening capacity events next).connection.stopReading reason =
      (cut capacity events next).connection := rfl
  rw [act_receive (stops.trans down)]
  exact settle_cut capacity events next

/-- After its end nothing comes of what the hub says. -/
theorem deliver_ended : (ended capacity events next).deliver stamp [item] =
    ended capacity events next := by
  rw [act_receive (c := (ended capacity events next).connection) rfl]
  exact settle_ended capacity events next

/-- What the hub sends before the call for events goes nowhere. -/
theorem deliver_start {items : List Incoming} (goesOn : ∀ m ∈ items, m.isEnd = false) :
    (start capacity none).deliver stamp items = start capacity none := by
  have handled (frame : Frame) :
      (start capacity none).connection.handle frame = (start capacity none).connection := by
    cases frame with
    | result f =>
      rw [Connection.handle, PendingCommands.resolve, complete_of_not_contains rfl]
      rfl
    | pong id =>
      rw [Connection.handle, PendingCommands.resolvePong, complete_of_not_contains rfl]
      rfl
    | event | authRequired | authOk | authInvalid | unknown => rfl
  have quiet : ∀ t ∈ (start capacity none).allTasks, (start capacity none).canRun t = false := by
    intro t mem
    obtain rfl : t = .writer := by
      simpa [allTasks, start, Connection.start, Outbox.empty] using mem
    rfl
  have settled : (start capacity none).settle = start capacity none := by
    rw [settle, runTasks_quiet rfl quiet]
    rfl
  induction items with
  | nil => rfl
  | cons item rest ih =>
    have first : (start capacity none).deliver stamp [item] = start capacity none := by
      cases brings : item.frame? stamp with
      | none =>
        exact (act_receive (receive_no_frame brings (goesOn _ List.mem_cons_self))).trans settled
      | some frame =>
        exact (act_receive ((receive_frame brings rfl).trans (handled frame))).trans settled
    show ((start capacity none).deliver stamp [item]).deliver stamp rest = _
    rw [first]
    exact ih fun m mem => goesOn m (List.mem_cons_of_mem _ mem)

end Session

end HubAutomation
