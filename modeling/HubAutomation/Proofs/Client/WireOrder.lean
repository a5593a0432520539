import HubAutomation.Proofs.Client.ListenerSteps
import HubAutomation.Proofs.Client.Outcomes

/-!
# Order on the wire

Callers line up with their messages. What was lined up is what was written and
what is on its way; some at the end may never be written, but nothing is written
twice. A caller that has a place can be overtaken by another one with a place, so
the messages need not be written in the order in which they were lined up. They
are if nobody is overtaken.

- `Connection.lined`, `Connection.linedUp`: the messages that an action, and a
  run, lines up.
- `Connection.wire`, `Connection.unwritten`: the messages that were written, and
  those that are on their way.
- `Connection.InTurn`: nobody is overtaken in a run.
- `QueueStep`: what an action does to the messages on their way.
- `Connection.Lined`: what was lined up is what was written and what is on its
  way, in some order.
- `Connection.InOrder`: it is so in the order in which it was lined up.
- `Connection.Numbered`: commands are lined up in the order of their ids.
-/

namespace HubAutomation

/-! ### The line for a place -/

namespace Outbox

variable {o o' : Outbox} {n : Nat} {message : Outgoing}

/-- The callers that have a place or wait for one, in their order. -/
def line (o : Outbox) : List Nat := o.granted ++ o.waiting

/-- Granting places moves nobody in the line. -/
@[simp] theorem line_grant (o : Outbox) : o.grant.line = o.line := by
  simp [grant, line, List.append_assoc]

/-- Who begins to wait is the last in line. -/
@[simp] theorem line_wait (o : Outbox) (n : Nat) : (o.wait n).line = o.line ++ [n] := by
  rw [wait, line_grant]
  exact (List.append_assoc _ _ _).symm

@[simp] theorem messages_wait (o : Outbox) (n : Nat) : (o.wait n).messages = o.messages := rfl

/-- A caller has a place if one of those granted is theirs. -/
theorem hasPlace_iff : o.hasPlace n = true ↔ n ∈ o.granted := List.contains_iff_mem

/-- A caller with a place is still in line. -/
theorem mem_line_of_place (place : o.hasPlace n = true) : n ∈ o.line :=
  List.mem_append_left _ (hasPlace_iff.1 place)

/-- Whoever uses a place leaves the line. -/
theorem line_use (place : o.hasPlace n = true) (message : Outgoing) :
    (o.use n message).line = o.line.erase n :=
  (List.erase_append_left _ (hasPlace_iff.1 place)).symm

/-- Whether a caller got its place before all others that have not used theirs. -/
def isNext (o : Outbox) (caller : Nat) : Bool := o.granted.head? = some caller

/-- Whose turn it is stands first in line. -/
theorem line_use_next (next : o.isNext n = true) (message : Outgoing) :
    o.line = n :: (o.use n message).line := by
  have head : o.granted.head? = some n := by simpa [isNext] using next
  obtain ⟨rest, granted⟩ := List.head?_eq_some_iff.1 head
  simp [line, use, put, granted]

/-- The writer takes the oldest message, and nobody in line moves. -/
theorem take?_eq_some (h : o.take? = some (message, o')) :
    o.messages = message :: o'.messages ∧ o'.line = o.line := by
  refine ⟨Connection.messages_take? h, ?_⟩
  unfold take? at h
  split at h
  · cases h
  · cases h
    exact line_grant _

end Outbox

namespace Outgoing

/-- The id of a command. -/
def id? : Outgoing → Option Nat
  | .command id _ => some id
  | .close => none

end Outgoing

namespace Written

/-- The message that was written. -/
def message? : Written → Option Outgoing
  | .command id c => some (.command id c)
  | .close => some .close
  | .token _ | .closed => none

/-- A command is written as it is. -/
@[simp] theorem message?_written (message : Outgoing) : message.written.message? = some message := by
  cases message <;> rfl

end Written

namespace Writer

/-- The message that is about to be written. -/
def message? : Writer → Option Outgoing
  | .busy message => some message
  | .idle | .closing | .stopped => none

/-- Whether messages are still written. -/
def writes : Writer → Bool
  | .idle | .busy _ => true
  | .closing | .stopped => false

/-- A writer that has stopped writes nothing. -/
theorem writes_of_stopped {w : Writer} (h : w.isStopped = true) : w.writes = false := by
  cases w <;> first | rfl | cases h

end Writer

namespace CallerState

/-- The message that a caller wants to put into the queue. -/
def sends? : CallerState → Option Outgoing
  | .sending id command _ => some (.command id command)
  | .closing => some .close
  | .ready _ | .locking _ | .awaiting _ _ | .done _ => none

/-- A caller that sends a command waits for a place with it. -/
theorem sends?_eq_command {s : CallerState} {id : Nat} {command : Command}
    (h : s.sends? = some (.command id command)) : ∃ purpose, s = .sending id command purpose := by
  cases s <;> cases h
  exact ⟨_, rfl⟩

end CallerState

namespace Connection

variable {c c' : Connection} {n m id : Nat} {command : Command} {message : Outgoing}
  {log : List Outgoing}

/-! ### What is lined up -/

/-- The message that an action lines up: its caller begins to wait for a place. -/
def lined (c : Connection) : Action → List Outgoing
  | .run n =>
    if (c.view n CallerState.sends?).isNone then
      ((c.act (.run n)).view n CallerState.sends?).toList
    else []
  | _ => []

/-- The messages that a run lines up, in their order. -/
def linedUp : Connection → List Action → List Outgoing
  | _, [] => []
  | c, a :: rest => c.lined a ++ linedUp (c.act a) rest

/-- What two runs in a row line up is lined up in their order. -/
theorem linedUp_append (c : Connection) (before rest : List Action) :
    linedUp c (before ++ rest) = linedUp c before ++ linedUp (c.actAll before) rest := by
  induction before generalizing c with
  | nil => rfl
  | cons a before ih =>
    show c.lined a ++ linedUp (c.act a) (before ++ rest) = _
    rw [ih, ← List.append_assoc]
    rfl

/-- The last action lines up its message behind all others. -/
theorem linedUp_concat (c : Connection) (before : List Action) (a : Action) :
    linedUp c (before ++ [a]) = linedUp c before ++ (c.actAll before).lined a := by
  rw [linedUp_append]
  exact congrArg _ (List.append_nil _)

/-- A caller that waits already lines nothing up. -/
theorem lined_of_before (before : c.view n CallerState.sends? = some message) :
    c.lined (.run n) = [] := by
  rw [lined, before]
  rfl

/-- A caller that does not wait afterwards has lined nothing up. -/
theorem lined_of_after (after : (c.act (.run n)).view n CallerState.sends? = none) :
    c.lined (.run n) = [] := by
  rw [lined, after]
  exact ite_self _

/-- A caller that begins to wait lines up its message. -/
theorem lined_of_new (before : c.view n CallerState.sends? = none)
    (after : (c.act (.run n)).view n CallerState.sends? = some message) :
    c.lined (.run n) = [message] := by
  rw [lined, before, after]
  rfl

/-- A message that is lined up is one that its caller did not wait with before. -/
theorem mem_lined {a : Action} (h : message ∈ c.lined a) :
    ∃ n, a = .run n ∧ c.view n CallerState.sends? = none ∧
      (c.act a).view n CallerState.sends? = some message := by
  cases a with
  | run n =>
    cases before : c.view n CallerState.sends? with
    | none =>
      rw [lined, before] at h
      exact ⟨n, rfl, before, Option.mem_toList.1 h⟩
    | some other =>
      rw [lined_of_before before] at h
      cases h
  | _ => cases h

/-! ### What is on its way -/

/-- The messages that were written. -/
def wire (c : Connection) : List Outgoing := c.written.filterMap Written.message?

/-- The messages that are on their way: the one that is about to be written,
those in the queue, and those of the callers that wait for a place. -/
def unwritten (c : Connection) : List Outgoing :=
  c.writer.message?.toList ++ c.outbox.messages ++
    c.outbox.line.filterMap fun n => c.view n CallerState.sends?

/-- What an action does to the messages on their way. -/
inductive QueueStep (c : Connection) (a : Action) (c' : Connection) : Prop where
  | aside (lined : c.lined a = [])
      (views : ∀ m, c'.view m CallerState.sends? = c.view m CallerState.sends?)
      (outbox : c'.outbox = c.outbox) (writer : c'.writer = c.writer)
      (written : c'.written = c.written)
  /-- A caller begins to wait for a place. -/
  | waits (n : Nat) (message : Outgoing) (lined : c.lined a = [message])
      (before : c.view n CallerState.sends? = none)
      (views : ∀ m, c'.view m CallerState.sends? =
        if m = n then some message else c.view m CallerState.sends?)
      (outbox : c'.outbox = c.outbox.wait n) (writer : c'.writer = c.writer)
      (written : c'.written = c.written)
  /-- A message gets into the queue. -/
  | puts (n : Nat) (message : Outgoing) (action : a = .run n) (lined : c.lined a = [])
      (before : c.view n CallerState.sends? = some message)
      (views : ∀ m, c'.view m CallerState.sends? =
        if m = n then none else c.view m CallerState.sends?)
      (place : c.outbox.hasPlace n = true) (outbox : c'.outbox = c.outbox.use n message)
      (writer : c'.writer = c.writer) (written : c'.written = c.written)
  | takes (message : Outgoing) (lined : c.lined a = []) (callers : c'.callers = c.callers)
      (idle : c.writer = .idle) (take : c.outbox.take? = some (message, c'.outbox))
      (writer : c'.writer = .busy message) (written : c'.written = c.written)
  | writes (message : Outgoing) (lined : c.lined a = []) (callers : c'.callers = c.callers)
      (busy : c.writer = .busy message) (outbox : c'.outbox = c.outbox)
      (writer : c'.writer = .after message) (written : c'.written = c.written ++ [message.written])
  /-- Nothing is written any more. -/
  | ends (lined : c.lined a = []) (writer : c'.writer.writes = false) (wire : c'.wire = c.wire)

/-- A turn of a caller writes nothing. -/
theorem Turn.written (h : Turn c n c') : c'.written = c.written := by cases h <;> rfl

/-- A turn in which the caller neither waits for a place nor begins to. -/
theorem QueueStep.of_quiet {s s' : CallerState} (run : c.act (.run n) = c')
    (at_ : c.callers[n]? = some s) (callers : c'.callers = c.callers.set n s')
    (before : s.sends? = none) (after : s'.sends? = none) (outbox : c'.outbox = c.outbox)
    (writer : c'.writer = c.writer) (written : c'.written = c.written) :
    QueueStep c (.run n) c' := by
  have was : c.view n CallerState.sends? = none := by rw [view, at_, Option.bind_some, before]
  have views : ∀ m, c'.view m CallerState.sends? = c.view m CallerState.sends? := by
    intro m
    rw [view_set _ at_ callers]
    split
    · subst ‹m = n›
      rw [after, was]
    · rfl
  exact .aside (lined_of_after (by rw [run, views, was])) views outbox writer written

/-- A turn in which the caller begins to wait for a place. -/
theorem QueueStep.of_wait {s s' : CallerState} (run : c.act (.run n) = c')
    (at_ : c.callers[n]? = some s) (callers : c'.callers = c.callers.set n s')
    (before : s.sends? = none) (after : s'.sends? = some message)
    (outbox : c'.outbox = c.outbox.wait n) (writer : c'.writer = c.writer)
    (written : c'.written = c.written) : QueueStep c (.run n) c' := by
  have was : c.view n CallerState.sends? = none := by rw [view, at_, Option.bind_some, before]
  have views : ∀ m, c'.view m CallerState.sends? =
      if m = n then some message else c.view m CallerState.sends? := by
    intro m
    rw [view_set _ at_ callers, after]
  exact .waits n message (lined_of_new was (by rw [run, views, if_pos rfl])) was views outbox writer
    written

/-- A turn in which a caller that waits for a place uses it, or cannot any
more. -/
theorem QueueStep.of_put {s s' : CallerState} (at_ : c.callers[n]? = some s)
    (callers : c'.callers = c.callers.set n s')
    (before : s.sends? = some message) (after : s'.sends? = none)
    (outbox : c.outbox.hasPlace n = true ∧ c'.outbox = c.outbox.use n message ∨
      c.writer.isStopped = true)
    (writer : c'.writer = c.writer) (written : c'.written = c.written) :
    QueueStep c (.run n) c' := by
  have was : c.view n CallerState.sends? = some message := by
    rw [view, at_, Option.bind_some, before]
  rcases outbox with ⟨place, outbox⟩ | stopped
  · refine .puts n message rfl (lined_of_before was) was (fun m => ?_) place outbox writer written
    rw [view_set _ at_ callers, after]
  · refine .ends (lined_of_before was) ?_ ?_
    · rw [writer]
      exact Writer.writes_of_stopped stopped
    · rw [wire, written]
      rfl

/-- What a turn of a caller does to the messages on their way. -/
theorem Turn.queue (turn : Turn c n c') (run : c.act (.run n) = c') : QueueStep c (.run n) c' := by
  have writer := turn.writer
  have written := turn.written
  -- By the shape of the turn: its caller begins to wait, gets its message in, or does
  -- neither.
  cases turn with
  | command at_ connected => exact .of_wait run at_ rfl rfl rfl rfl writer written
  | commandLost at_ down => exact .of_quiet run at_ rfl rfl rfl rfl writer written
  | listen at_ => exact .of_quiet run at_ rfl rfl rfl rfl writer written
  | unlisten at_ => exact .of_quiet run at_ rfl rfl rfl rfl writer written
  | close at_ connected => exact .of_wait run at_ rfl rfl rfl rfl writer written
  | aside at_ kind => exact .of_quiet run at_ rfl rfl rfl rfl writer written
  | join at_ holds recorded => exact .of_quiet run at_ rfl rfl rfl rfl writer written
  | subscribe at_ holds unrecorded connected =>
    exact .of_wait run at_ rfl rfl rfl rfl writer written
  | subscribeLost at_ holds unrecorded down =>
    exact .of_quiet run at_ rfl rfl rfl rfl writer written
  | untaken at_ holds untaken => exact .of_quiet run at_ rfl rfl rfl rfl writer written
  | taken at_ holds take untold => exact .of_quiet run at_ rfl rfl rfl rfl writer written
  | unsubscribe at_ holds take connected => exact .of_wait run at_ rfl rfl rfl rfl writer written
  | stranded at_ stopped => exact .of_put at_ rfl rfl rfl (.inr stopped) writer written
  | queued at_ running place => exact .of_put at_ rfl rfl rfl (.inl ⟨place, rfl⟩) writer written
  | answered at_ parked => exact .of_quiet run at_ rfl rfl rfl rfl writer written
  | closed at_ stopped => exact .of_put at_ rfl rfl rfl (.inr stopped) writer written
  | farewell at_ running place =>
    exact .of_put at_ rfl rfl rfl (.inl ⟨place, rfl⟩) writer written

/-- An action that touches neither callers nor queue nor writer. -/
theorem QueueStep.of_same {a : Action} (lined : c.lined a = []) (callers : c'.callers = c.callers)
    (outbox : c'.outbox = c.outbox) (writer : c'.writer = c.writer)
    (written : c'.written = c.written) : QueueStep c a c' :=
  .aside lined (fun m => by rw [view, view, callers]) outbox writer written

/-- What any action does to the messages on their way. -/
theorem act_queue (c : Connection) (a : Action) : QueueStep c a (c.act a) := by
  have step := c.act_step a
  generalize run : c.act a = c' at step
  -- Turns are dealt with above; of the other actions only those of the writer move a
  -- message.
  cases step with
  | turn turn => exact turn.queue run
  | idle silent =>
    refine .of_same ?_ rfl rfl rfl rfl
    cases a with
    | run n =>
      cases before : c.view n CallerState.sends? with
      | none =>
        refine lined_of_after ?_
        rw [run, before]
      | some message => exact lined_of_before before
    | _ => rfl
  | @call request held =>
    refine .aside rfl (fun m => ?_) rfl rfl rfl
    refine Option.ext fun message => ?_
    rw [view_eq_some, view_eq_some]
    refine exists_congr fun s => and_congr_left fun sends => ?_
    have ready : ∀ s ∈ [CallerState.ready request], ∃ request, s = .ready request := by simp
    refine caller_append rfl ready (fun other e => ?_) m
    rw [e] at sends
    cases sends
  | take idle take => exact .takes _ rfl rfl idle take rfl rfl
  | finish idle empty down => exact .ends rfl rfl rfl
  | written busy works => exact .writes _ rfl rfl busy rfl rfl rfl
  | unwritten busy broken held => exact .ends rfl rfl rfl
  | unheard busy broken free => exact .ends rfl rfl rfl
  | stop closing =>
    refine .ends rfl rfl ?_
    show (c.written ++ _).filterMap _ = c.written.filterMap _
    rw [List.filterMap_append]
    split
    · exact List.append_nil _
    · exact List.append_nil _
  | @frame _ frame reading brings =>
    have none_ : c.lined a = [] := by
      cases a with
      | receive stamp item => rfl
      | _ => cases brings
    cases frame <;> exact .of_same none_ rfl rfl rfl rfl
  | farewell reading silent => exact .of_same rfl rfl rfl rfl rfl
  | release => exact .of_same rfl rfl rfl rfl rfl
  | breakWrites => exact .of_same rfl rfl rfl rfl rfl

/-! ### Callers in line -/

/-- Exactly the callers that want to put a message in are in line, each of them
once. -/
structure Placed (c : Connection) : Prop where
  nodup : c.outbox.line.Nodup
  inLine : ∀ n, n ∈ c.outbox.line ↔ ∃ message, c.view n CallerState.sends? = some message

/-- A caller that begins to wait was not in line. -/
theorem Placed.not_mem (h : c.Placed) (before : c.view n CallerState.sends? = none) :
    n ∉ c.outbox.line := by
  rw [h.inLine, before]
  exact nofun

/-- A caller that begins to wait gets into line. -/
theorem Placed.waits (h : c.Placed) (before : c.view n CallerState.sends? = none)
    (views : ∀ m, c'.view m CallerState.sends? =
      if m = n then some message else c.view m CallerState.sends?)
    (outbox : c'.outbox = c.outbox.wait n) : c'.Placed := by
  have line : c'.outbox.line = c.outbox.line ++ [n] := by rw [outbox, Outbox.line_wait]
  have out := h.not_mem before
  refine ⟨?_, fun m => ?_⟩
  · rw [line, List.nodup_append]
    refine ⟨h.nodup, List.nodup_singleton n, fun a ha b hb e => out ?_⟩
    rwa [← List.mem_singleton.1 hb, ← e]
  · rw [line, List.mem_append, List.mem_singleton, h.inLine, views]
    split
    · exact ⟨fun _ => ⟨_, rfl⟩, fun _ => .inr ‹m = n›⟩
    · exact ⟨fun hm => hm.resolve_right ‹m ≠ n›, .inl⟩

/-- A caller that has put its message in leaves the line. -/
theorem Placed.puts (h : c.Placed)
    (views : ∀ m, c'.view m CallerState.sends? =
      if m = n then none else c.view m CallerState.sends?)
    (place : c.outbox.hasPlace n = true) (outbox : c'.outbox = c.outbox.use n message) :
    c'.Placed := by
  have line : c'.outbox.line = c.outbox.line.erase n := by rw [outbox, Outbox.line_use place]
  refine ⟨?_, fun m => ?_⟩
  · rw [line]
    exact h.nodup.erase n
  · rw [line, h.nodup.mem_erase_iff, h.inLine, views]
    split
    · subst ‹m = n›
      exact ⟨fun hm => absurd rfl hm.1, nofun⟩
    · exact and_iff_right ‹m ≠ n›

/-- Nothing changes in the line. -/
theorem Placed.of_line (h : c.Placed) (line : c'.outbox.line = c.outbox.line)
    (views : ∀ m, c'.view m CallerState.sends? = c.view m CallerState.sends?) : c'.Placed where
  nodup := line ▸ h.nodup
  inLine m := by
    rw [line, views]
    exact h.inLine m

/-! ### What was written and what is on its way -/

/-- The messages that were written, and behind them those that are on their
way. -/
def messages (c : Connection) : List Outgoing := c.wire ++ c.unwritten

/-- A caller puts its message in although another one got its place before. -/
def Overtakes (c : Connection) : Action → Prop
  | .run n => c.outbox.hasPlace n = true ∧ c.outbox.isNext n = false
  | _ => False

instance decidableOvertakes (c : Connection) : DecidablePred c.Overtakes
  | .run n =>
    inferInstanceAs (Decidable (c.outbox.hasPlace n = true ∧ c.outbox.isNext n = false))
  | .call _ | .write | .receive _ _ | .release | .breakWrites _ => .isFalse False.elim

/-- Nobody is overtaken in a run: callers put their messages in in the order in
which they began to wait for a place. It is what the queue is documented to do: it
keeps "calls to send" in a line, so that they "complete in the order they were
requested". -/
def InTurn (c : Connection) (actions : List Action) : Prop := ¬ Sometime Overtakes c actions

instance decidableInTurn (c : Connection) (actions : List Action) : Decidable (c.InTurn actions) :=
  inferInstanceAs (Decidable (¬ Sometime Overtakes c actions))

/-- Nobody was overtaken in a run if nobody was before its last action, and nobody is
by it. -/
theorem inTurn_concat {actions : List Action} {a : Action} :
    c.InTurn (actions ++ [a]) ↔ c.InTurn actions ∧ ¬ (c.actAll actions).Overtakes a := by
  rw [InTurn, sometime_concat, not_or]
  rfl

/-- A message that is lined up is the last one on its way. -/
theorem messages_waits (placed : c.Placed) (before : c.view n CallerState.sends? = none)
    (views : ∀ m, c'.view m CallerState.sends? =
      if m = n then some message else c.view m CallerState.sends?)
    (outbox : c'.outbox = c.outbox.wait n) (writer : c'.writer = c.writer)
    (written : c'.written = c.written) : c'.messages = c.messages ++ [message] := by
  have line : c'.outbox.line = c.outbox.line ++ [n] := by rw [outbox, Outbox.line_wait]
  have queue : c'.outbox.messages = c.outbox.messages := by rw [outbox, Outbox.messages_wait]
  -- Callers that are in line already want to put in what they did before.
  have same : ∀ m ∈ c.outbox.line,
      c'.view m CallerState.sends? = c.view m CallerState.sends? := fun m mem => by
    have other : m ≠ n := fun e => placed.not_mem before (e ▸ mem)
    rw [views, if_neg other]
  rw [messages, messages, wire, wire, unwritten, unwritten, written, writer, queue, line,
    List.filterMap_append, List.filterMap_congr same]
  simp [views]

/-- A message that gets into the queue stays on its way, and in its place if its
caller is the next in line. -/
theorem messages_puts (placed : c.Placed) (before : c.view n CallerState.sends? = some message)
    (views : ∀ m, c'.view m CallerState.sends? =
      if m = n then none else c.view m CallerState.sends?)
    (place : c.outbox.hasPlace n = true) (outbox : c'.outbox = c.outbox.use n message)
    (writer : c'.writer = c.writer) (written : c'.written = c.written) :
    c.messages.Perm c'.messages ∧ (c.outbox.isNext n = true → c'.messages = c.messages) := by
  have line : c'.outbox.line = c.outbox.line.erase n := by rw [outbox, Outbox.line_use place]
  have queue : c'.outbox.messages = c.outbox.messages ++ [message] := by rw [outbox]; rfl
  have same : ∀ m ∈ c.outbox.line.erase n,
      c'.view m CallerState.sends? = c.view m CallerState.sends? := fun m mem => by
    rw [views, if_neg (placed.nodup.mem_erase_iff.1 mem).1]
  have after : c'.messages = c.wire ++ (c.writer.message?.toList ++ c.outbox.messages) ++
      message :: (c.outbox.line.erase n).filterMap fun m => c.view m CallerState.sends? := by
    rw [messages, wire, unwritten, written, writer, queue, line, List.filterMap_congr same, wire]
    simp only [List.append_assoc, List.singleton_append]
  have now : c.messages = c.wire ++ (c.writer.message?.toList ++ c.outbox.messages) ++
      c.outbox.line.filterMap fun m => c.view m CallerState.sends? :=
    (List.append_assoc _ _ _).symm
  have first : (n :: c.outbox.line.erase n).filterMap (fun m => c.view m CallerState.sends?) =
      message :: (c.outbox.line.erase n).filterMap fun m => c.view m CallerState.sends? :=
    List.filterMap_cons_some before
  constructor
  · rw [now, after, ← first]
    exact ((List.perm_cons_erase (Outbox.mem_line_of_place place)).filterMap _).append_left _
  · intro next
    have whole := Outbox.line_use_next next message
    rw [Outbox.line_use place] at whole
    rw [now, after, ← first, ← whole]

/-- A message that the writer takes stays on its way. -/
theorem messages_takes (callers : c'.callers = c.callers) (idle : c.writer = .idle)
    (take : c.outbox.take? = some (message, c'.outbox)) (writer : c'.writer = .busy message)
    (written : c'.written = c.written) : c'.messages = c.messages := by
  obtain ⟨queue, line⟩ := Outbox.take?_eq_some take
  have views : ∀ n, c'.view n CallerState.sends? = c.view n CallerState.sends? :=
    fun n => by rw [view, view, callers]
  rw [messages, messages, wire, wire, unwritten, unwritten, written, writer, idle, queue, line,
    List.filterMap_congr fun n _ => views n]
  rfl

/-- A message that is written stays the first of those that are on their way or were
written. -/
theorem messages_writes (callers : c'.callers = c.callers) (busy : c.writer = .busy message)
    (outbox : c'.outbox = c.outbox) (writer : c'.writer = .after message)
    (written : c'.written = c.written ++ [message.written]) : c'.messages = c.messages := by
  have views : ∀ n, c'.view n CallerState.sends? = c.view n CallerState.sends? :=
    fun n => by rw [view, view, callers]
  have none_ : c'.writer.message? = none := by
    rw [writer]
    cases message <;> rfl
  rw [messages, messages, wire, wire, unwritten, unwritten, written, none_, busy, outbox,
    List.filterMap_append, List.filterMap_congr fun n _ => views n]
  simp [Writer.message?]

/-- Where nothing changes, the messages are the same. -/
theorem messages_of_same (views : ∀ m, c'.view m CallerState.sends? = c.view m CallerState.sends?)
    (outbox : c'.outbox = c.outbox) (writer : c'.writer = c.writer)
    (written : c'.written = c.written) : c'.messages = c.messages := by
  rw [messages, messages, wire, wire, unwritten, unwritten, written, writer, outbox,
    List.filterMap_congr fun n _ => views n]

/-- What an action does as long as messages are written: they move on, and what the
action lines up comes to them. Without overtaking it stands behind them. -/
structure Moves (c : Connection) (a : Action) (c' : Connection) : Prop where
  placed : c'.Placed
  perm : (c.messages ++ c.lined a).Perm c'.messages
  inTurn : ¬ c.Overtakes a → c'.messages = c.messages ++ c.lined a

/-- An action that lines nothing up and moves no message. -/
theorem Moves.of_same {a : Action} (placed : c'.Placed) (lined : c.lined a = [])
    (same : c'.messages = c.messages) : Moves c a c' := by
  have all : c'.messages = c.messages ++ c.lined a := by rw [same, lined, List.append_nil]
  exact ⟨placed, all ▸ List.Perm.refl _, fun _ => all⟩

/-- An action moves the messages on, or nothing is written any more. -/
theorem moves_act (placed : c.writer.writes = true → c.Placed) (a : Action) :
    c.writer.writes = true ∧ Moves c a (c.act a) ∨
      (c.act a).writer.writes = false ∧ (c.act a).wire = c.wire := by
  have step := c.act_queue a
  generalize c.act a = c' at step
  -- A writer that has stopped does not begin again, so nothing moves on the wire.
  cases writing : c.writer.writes with
  | false =>
    refine .inr ?_
    cases step with
    | aside lined views outbox writer written => exact ⟨writer ▸ writing, by rw [wire, wire, written]⟩
    | waits n message lined before views outbox writer written =>
      exact ⟨writer ▸ writing, by rw [wire, wire, written]⟩
    | puts n message action lined before views place outbox writer written =>
      exact ⟨writer ▸ writing, by rw [wire, wire, written]⟩
    | takes message lined callers idle take writer written =>
      rw [idle] at writing
      cases writing
    | writes message lined callers busy outbox writer written =>
      rw [busy] at writing
      cases writing
    | ends lined writer wire => exact ⟨writer, wire⟩
  | true =>
    have placed := placed writing
    cases step with
    | aside lined views outbox writer written =>
      exact .inl ⟨rfl, .of_same (placed.of_line (by rw [outbox]) views) lined
        (messages_of_same views outbox writer written)⟩
    | waits n message lined before views outbox writer written =>
      have all := messages_waits placed before views outbox writer written
      rw [← lined] at all
      exact .inl ⟨rfl, placed.waits before views outbox, all ▸ List.Perm.refl _, fun _ => all⟩
    | puts n message action lined before views place outbox writer written =>
      obtain ⟨perm, same⟩ := messages_puts placed before views place outbox writer written
      refine .inl ⟨rfl, placed.puts views place outbox, ?_, fun inTurn => ?_⟩
      · rwa [lined, List.append_nil]
      · rw [lined, List.append_nil]
        subst action
        exact same (by simpa [Overtakes, place] using inTurn)
    | takes message lined callers idle take writer written =>
      have views : ∀ n, c'.view n CallerState.sends? = c.view n CallerState.sends? :=
        fun n => by rw [view, view, callers]
      exact .inl ⟨rfl, .of_same (placed.of_line (Outbox.take?_eq_some take).2 views) lined
        (messages_takes callers idle take writer written)⟩
    | writes message lined callers busy outbox writer written =>
      have views : ∀ n, c'.view n CallerState.sends? = c.view n CallerState.sends? :=
        fun n => by rw [view, view, callers]
      exact .inl ⟨rfl, .of_same (placed.of_line (by rw [outbox]) views) lined
        (messages_writes callers busy outbox writer written)⟩
    | ends lined writer wire => exact .inr ⟨writer, wire⟩

/-- What was lined up is what was written and, as long as anything is written,
what is on its way. -/
structure Lined (c : Connection) (log : List Outgoing) : Prop where
  among : ∃ rest, log.Perm (c.wire ++ rest)
  placed : c.writer.writes = true → c.Placed
  all : c.writer.writes = true → log.Perm c.messages

/-- Before a run, nothing is lined up or written. -/
theorem lined_start (capacity : Nat) (broken : Option String) : (start capacity broken).Lined [] where
  among := ⟨[], .refl []⟩
  placed := fun _ => ⟨.nil, fun n => ⟨nofun, fun ⟨_, h⟩ => by cases h⟩⟩
  all := fun _ => .refl []

/-- One more action: what it lines up is on its way or written afterwards. -/
theorem Lined.act (h : c.Lined log) (a : Action) : (c.act a).Lined (log ++ c.lined a) := by
  rcases moves_act h.placed a with ⟨writing, moves⟩ | ⟨silent, wire⟩
  · have all := ((h.all writing).append_right _).trans moves.perm
    exact ⟨⟨_, all⟩, fun _ => moves.placed, fun _ => all⟩
  · obtain ⟨rest, perm⟩ := h.among
    refine ⟨⟨rest ++ c.lined a, ?_⟩, fun writing => ?_, fun writing => ?_⟩
    · rw [wire, ← List.append_assoc]
      exact perm.append_right _
    · exact absurd (writing.symm.trans silent) nofun
    · exact absurd (writing.symm.trans silent) nofun

/-- The messages that were written are some of those that were lined up. -/
theorem lined_actAll (capacity : Nat) (broken : Option String) (actions : List Action) :
    ((start capacity broken).actAll actions).Lined (linedUp (start capacity broken) actions) := by
  induction actions using List.reverseRecOn with
  | nil => exact lined_start capacity broken
  | append_singleton rest a ih =>
    rw [linedUp_concat, actAll_append]
    exact ih.act a

/-- What was written was lined up. -/
theorem Lined.mem_of_wire (h : c.Lined log) (mem : message ∈ c.wire) : message ∈ log := by
  obtain ⟨rest, perm⟩ := h.among
  exact perm.mem_iff.2 (List.mem_append_left _ mem)

/-- As long as messages are written, the line is that of those that wait. -/
theorem Reachable.placed (h : c.Reachable) (writing : c.writer.writes = true) : c.Placed := by
  obtain ⟨capacity, broken, actions, rfl⟩ := h
  exact (lined_actAll capacity broken actions).placed writing

/-! ### First in, first out -/

/-- What was lined up is, in its order, what was written and, as long as anything
is written, what is on its way. -/
structure InOrder (c : Connection) (log : List Outgoing) : Prop where
  begins : c.wire <+: log
  all : c.writer.writes = true → log = c.messages

/-- An action that overtakes nobody keeps the messages in their order. -/
theorem InOrder.act (h : c.InOrder log) (placed : c.writer.writes = true → c.Placed) {a : Action}
    (inTurn : ¬ c.Overtakes a) : (c.act a).InOrder (log ++ c.lined a) := by
  rcases moves_act placed a with ⟨writing, moves⟩ | ⟨silent, wire⟩
  · have all : log ++ c.lined a = (c.act a).messages := by
      rw [h.all writing, moves.inTurn inTurn]
    exact ⟨all ▸ List.prefix_append _ _, fun _ => all⟩
  · refine ⟨?_, fun writing => absurd (writing.symm.trans silent) nofun⟩
    rw [wire]
    exact h.begins.trans (List.prefix_append _ _)

/-- If nobody is overtaken, the messages that were written are the first of those
that were lined up. -/
theorem inOrder_actAll (capacity : Nat) (broken : Option String) {actions : List Action}
    (inTurn : (start capacity broken).InTurn actions) :
    ((start capacity broken).actAll actions).InOrder (linedUp (start capacity broken) actions) := by
  induction actions using List.reverseRecOn with
  | nil => exact ⟨List.nil_prefix, fun _ => rfl⟩
  | append_singleton rest a ih =>
    obtain ⟨before, last⟩ := inTurn_concat.1 inTurn
    rw [linedUp_concat, actAll_append]
    exact (ih before).act (lined_actAll capacity broken rest).placed last

/-- A command was written if it is one of the messages on the wire. -/
theorem Written.mem_messages {written : List Written} :
    .command id command ∈ written.filterMap Written.message? ↔ .command id command ∈ written := by
  rw [List.mem_filterMap]
  constructor
  · rintro ⟨w, mem, e⟩
    cases w <;> cases e
    exact mem
  · exact fun mem => ⟨_, mem, rfl⟩

/-- The messages before and behind a command that was written. -/
theorem wire_of_written {before after : List Written}
    (h : c.written = before ++ .command id command :: after) :
    c.wire = before.filterMap Written.message? ++
      .command id command :: after.filterMap Written.message? := by
  unfold wire
  rw [h, List.filterMap_append]
  rfl

/-- A command is written when the writing side is busy with it. -/
theorem busy_of_writes {a : Action}
    (writes : (c.act a).written = c.written ++ [.command id command]) :
    c.writer = .busy (.command id command) := by
  have grows : (c.act a).written ≠ c.written := by
    intro same
    rw [same] at writes
    simpa using congrArg List.length writes
  cases c.act_queue a with
  | aside lined views outbox writer written => exact absurd written grows
  | waits n message lined before views outbox writer written => exact absurd written grows
  | puts n message action lined before views place outbox writer written =>
    exact absurd written grows
  | takes message lined callers idle take writer written => exact absurd written grows
  | writes message lined callers busy outbox writer written =>
    have same : message.written = .command id command := by simpa using written.symm.trans writes
    rw [busy]
    cases message with
    | command i c => cases same; rfl
    | close => cases same
  | ends lined writer wire =>
    -- The command would be one more on the wire.
    have longer : (c.act a).wire = c.wire ++ [.command id command] := by
      unfold Connection.wire
      rw [writes, List.filterMap_append]
      rfl
    rw [longer] at wire
    simpa using congrArg List.length wire

/-- A writer with a message to write is still at work. -/
theorem writes_of_busy (busy : c.writer = .busy message) : c.writer.writes = true := by
  rw [busy]
  rfl

/-- A command that is written next stands behind those that were written before. -/
theorem messages_of_busy (busy : c.writer = .busy message) :
    ∃ rest, c.messages = c.wire ++ message :: rest := by
  rw [messages, unwritten, busy]
  exact ⟨_, rfl⟩

/-! ### Ids -/

/-- A caller that takes a turn is in its new state. -/
theorem caller_set {s s' : CallerState} (at_ : c.callers[n]? = some s)
    (callers : c'.callers = c.callers.set n s') : c'.callers[n]? = some s' := by
  rw [callers, getElem?_set_caller at_, if_pos rfl]

/-- A caller with a new command has just started it, under the next id. -/
theorem CommandTurn.starting {purpose : Purpose} (t : CommandTurn c n c')
    (after : c'.callers[n]? = some (.sending id command purpose)) :
    c.starting n = some (command, purpose) ∧ c.connected = true ∧ id = c.commands.nextId ∧
      c'.commands = c.commands.register := by
  cases t with
  | aside s s' at_ open_ callers _ none_ unchanged messages =>
    cases (caller_set at_ callers).symm.trans after
    cases none_
  | issued s command' purpose' at_ open_ _ starts callers connected connected' commands _ _ =>
    cases (caller_set at_ callers).symm.trans after
    exact ⟨starts, connected, rfl, commands⟩
  | stranded i command' purpose' reason at_ callers commands outcomes connected messages =>
    cases (caller_set at_ callers).symm.trans after
  | queued i command' purpose' at_ callers unchanged messages =>
    cases (caller_set at_ callers).symm.trans after
  | answered i purpose' outcome at_ parked callers commands outcomes connected messages =>
    cases (caller_set at_ callers).symm.trans after
  | closed at_ callers commands outcomes down messages =>
    cases (caller_set at_ callers).symm.trans after

/-- A caller that waits for a place with a command did so before, or has just
started the command. -/
theorem sending_act {a : Action} {purpose : Purpose}
    (h : (c.act a).callers[n]? = some (.sending id command purpose)) :
    c.callers[n]? = some (.sending id command purpose) ∨
      a = .run n ∧ c.starting n = some (command, purpose) ∧ c.connected = true ∧
        id = c.commands.nextId ∧ (c.act a).commands = c.commands.register := by
  rcases (c.act_step a).commands with ⟨m, rfl, t⟩ | e
  · by_cases own : n = m
    · subst own
      exact .inr ⟨rfl, t.starting h⟩
    · rw [t.caller_other own] at h
      exact .inl h
  · -- Without a turn, no caller has a command that it had not before.
    have mine : c.commandOf n = some id := (e.owner n).symm.trans (commandOf_of_caller h)
    obtain ⟨s, at_, id_⟩ := Option.bind_eq_some_iff.1 mine
    cases (e.caller at_).symm.trans h
    exact .inl at_

/-- A command that is lined up has just started, under the next id. -/
theorem starting_of_lined {a : Action} (h : .command id command ∈ c.lined a) :
    ∃ n purpose, a = .run n ∧ c.starting n = some (command, purpose) ∧ c.connected = true ∧
      id = c.commands.nextId ∧ (c.act a).commands = c.commands.register := by
  obtain ⟨n, rfl, before, after⟩ := mem_lined h
  obtain ⟨s, at', sends⟩ := view_eq_some.1 after
  obtain ⟨purpose, rfl⟩ := CallerState.sends?_eq_command sends
  rcases sending_act at' with at_ | ⟨-, starts⟩
  · rw [view, at_] at before
    cases before
  · exact ⟨n, purpose, rfl, starts⟩

/-- A caller that is about to start a command does not wait with another one. -/
theorem sends?_of_starting {purpose : Purpose} (h : c.starting n = some (command, purpose)) :
    c.view n CallerState.sends? = none := by
  unfold starting at h
  split at h
  · rename_i at_
    rw [view, at_]
    rfl
  · rename_i at_
    rw [view, at_]
    rfl
  · rename_i at_
    rw [view, at_]
    rfl
  · cases h

/-- A command that starts on a connection that is up is lined up. -/
theorem lined_of_starting {purpose : Purpose} (h : c.starting n = some (command, purpose))
    (up : c.connected = true) : c.lined (.run n) = [.command c.commands.nextId command] := by
  refine lined_of_new (sends?_of_starting h) ?_
  rw [view, (starting_up h up).1]
  rfl

/-- Only a command that starts gets an id. -/
theorem nextId_act (c : Connection) (a : Action) :
    (c.act a).commands.nextId = c.commands.nextId ∨
      ∃ n command purpose, a = .run n ∧ c.starting n = some (command, purpose) ∧
        c.connected = true := by
  rcases (c.act_step a).commands with ⟨n, rfl, t⟩ | e
  · cases t with
    | issued s command purpose at_ open_ before starts callers connected connected' commands _ _ =>
      exact .inr ⟨n, command, purpose, rfl, starts, connected⟩
    | aside s s' at_ open_ callers before after unchanged messages =>
      exact .inl (congrArg PendingCommands.nextId unchanged.commands)
    | stranded i command purpose reason at_ callers commands outcomes connected messages =>
      rw [commands]
      exact .inl (PendingCommands.nextId_complete _ _ _)
    | queued i command purpose at_ callers unchanged messages =>
      exact .inl (congrArg PendingCommands.nextId unchanged.commands)
    | answered i purpose outcome at_ parked callers commands outcomes connected messages =>
      exact .inl (congrArg PendingCommands.nextId commands)
    | closed at_ callers commands outcomes down messages =>
      rw [commands]
      exact .inl rfl
  · refine .inl ?_
    cases e with
    | quiet silent callers unchanged messages =>
      exact congrArg PendingCommands.nextId unchanged.commands
    | answer i outcome mine other callers commands outcomes connected messages =>
      rw [commands]
      exact PendingCommands.nextId_complete _ _ _
    | down silent callers commands outcomes down messages => rw [commands]; rfl

/-- Commands are lined up in the order of their ids, which start at 1 and leave
no number out. -/
def Numbered (c : Connection) (log : List Outgoing) : Prop :=
  0 :: log.filterMap Outgoing.id? = List.range c.commands.nextId

/-- Each command that is lined up gets the next id. -/
theorem Numbered.act (h : c.Numbered log) (a : Action) : (c.act a).Numbered (log ++ c.lined a) := by
  unfold Numbered at h ⊢
  rw [List.filterMap_append, ← List.cons_append, h]
  rcases c.nextId_act a with same | ⟨n, command, purpose, rfl, starts, up⟩
  · have none_ : (c.lined a).filterMap Outgoing.id? = [] := by
      rw [List.filterMap_eq_nil_iff]
      intro message mem
      cases message with
      | close => rfl
      | command id command =>
        obtain ⟨n, purpose, -, -, -, -, commands⟩ := starting_of_lined mem
        rw [commands] at same
        exact absurd same (Nat.succ_ne_self _)
    rw [none_, same, List.append_nil]
  · have next : (c.act (.run n)).commands.nextId = c.commands.nextId + 1 := by
      rw [(starting_up starts up).2.1]
      rfl
    rw [lined_of_starting starts up, next, List.range_succ]
    rfl

/-- In a run, the commands that are lined up have the ids from 1 on. -/
theorem numbered_actAll (capacity : Nat) (broken : Option String) (actions : List Action) :
    ((start capacity broken).actAll actions).Numbered
      (linedUp (start capacity broken) actions) := by
  induction actions using List.reverseRecOn with
  | nil => rfl
  | append_singleton rest a ih =>
    rw [linedUp_concat, actAll_append]
    exact ih.act a

/-- An id that was given out is not given out again. -/
theorem Numbered.lt (h : c.Numbered log) (mem : .command id command ∈ log) :
    id < c.commands.nextId := by
  have mem' : id ∈ log.filterMap Outgoing.id? := List.mem_filterMap.2 ⟨_, mem, rfl⟩
  rw [← List.mem_range, ← h]
  exact List.mem_cons_of_mem _ mem'

/-- No two commands have the same id. -/
theorem Numbered.nodup (h : c.Numbered log) : (log.filterMap Outgoing.id?).Nodup := by
  have all : (0 :: log.filterMap Outgoing.id?).Nodup := by
    rw [h]
    exact List.nodup_range
  exact (List.nodup_cons.1 all).2

/-- Before a command stand those with smaller ids, and behind it those with
larger ones. -/
theorem Numbered.around {before after : List Outgoing}
    (h : c.Numbered (before ++ .command id command :: after)) :
    (∀ i command', .command i command' ∈ before → i < id) ∧
      ∀ i command', .command i command' ∈ after → id < i := by
  have sorted : (0 :: (before ++ .command id command :: after).filterMap Outgoing.id?).Pairwise
      (· < ·) := by
    rw [h]
    exact List.pairwise_lt_range
  have sorted := List.pairwise_filterMap.1 (List.pairwise_cons.1 sorted).2
  obtain ⟨-, behind, across⟩ := List.pairwise_append.1 sorted
  constructor
  · intro i command' mem
    exact across _ mem _ List.mem_cons_self i rfl id rfl
  · intro i command' mem
    exact (List.pairwise_cons.1 behind).1 _ mem id rfl i rfl

/-- A command with a smaller id stands before one with a larger id. -/
theorem Numbered.mem_before {before after : List Outgoing} {i : Nat} {command' : Command}
    (h : c.Numbered (before ++ .command id command :: after))
    (mem : .command i command' ∈ before ++ .command id command :: after) (lt : i < id) :
    .command i command' ∈ before := by
  rcases List.mem_append.1 mem with mem | mem
  · exact mem
  · rcases List.mem_cons.1 mem with e | mem
    · cases e
      exact absurd lt (Nat.lt_irrefl _)
    · exact absurd (h.around.2 i command' mem) (Nat.lt_asymm lt)

/-- A command stands between two others if its id does. -/
theorem Numbered.mem_between {before between after : List Outgoing} {i j : Nat}
    {command' command'' : Command}
    (h : c.Numbered (before ++ .command id command :: (between ++ .command j command'' :: after)))
    (mem : .command i command' ∈
      before ++ .command id command :: (between ++ .command j command'' :: after))
    (lt : id < i) (lt' : i < j) : .command i command' ∈ between := by
  have assoc : before ++ .command id command :: (between ++ .command j command'' :: after) =
      (before ++ .command id command :: between) ++ .command j command'' :: after := by
    rw [List.append_assoc]
    rfl
  have smaller := h.around.1
  rw [assoc] at h mem
  rcases List.mem_append.1 (h.mem_before mem lt') with mem | mem
  · exact absurd (smaller i command' mem) (Nat.lt_asymm lt)
  · rcases List.mem_cons.1 mem with e | mem
    · cases e
      exact absurd lt (Nat.lt_irrefl _)
    · exact mem

/-- An id stands for one command. -/
theorem Numbered.unique {command' : Command} (h : c.Numbered log)
    (mem : .command id command ∈ log) (mem' : .command id command' ∈ log) : command = command' := by
  obtain ⟨before, after, rfl⟩ := List.append_of_mem mem
  obtain ⟨smaller, larger⟩ := h.around
  rcases List.mem_append.1 mem' with mem' | mem'
  · exact absurd (smaller id command' mem') (Nat.lt_irrefl _)
  · rcases List.mem_cons.1 mem' with e | mem'
    · cases e
      rfl
    · exact absurd (larger id command' mem') (Nat.lt_irrefl _)

end Connection

end HubAutomation
