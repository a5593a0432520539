import HubAutomation.Proofs.Client.WireOrder

/-!
# What is written

Messages are written in the order in which they stand in the queue. Among them
are the commands, in the order in which they were started and with the numbers
from 1 on as their ids. A farewell is the last message, and nothing is written
after a write that failed.

- `Connection.queued`: the messages that a run puts into the queue.
- `Connection.started`: the commands that a run starts.
- `Connection.Queued`: what was queued is what was written and what the writing
  side has yet to write.
- `Connection.Started`: what was lined up are the commands that were started.
- `Connection.EndsWithFarewell`: nothing is written behind a farewell.
- `Connection.written_in_order`: all that is written.
-/

namespace HubAutomation

/-- The text of a message that is a frame. -/
def Outgoing.frame? (m : Outgoing) : Option String := m.written.frame?

namespace Connection

variable {c c' : Connection} {n : Nat} {message : Outgoing} {log : List Outgoing} {β : Type}

/-- What the actions of a run give, one after another. -/
def gathered (f : Connection → Action → List β) : Connection → List Action → List β
  | _, [] => []
  | c, a :: rest => f c a ++ gathered f (c.act a) rest

theorem gathered_append (f : Connection → Action → List β) (c : Connection)
    (before rest : List Action) :
    gathered f c (before ++ rest) = gathered f c before ++ gathered f (c.actAll before) rest := by
  induction before generalizing c with
  | nil => rfl
  | cons a before ih =>
    show f c a ++ gathered f (c.act a) (before ++ rest) = _
    rw [ih, ← List.append_assoc]
    rfl

theorem gathered_concat (f : Connection → Action → List β) (c : Connection)
    (before : List Action) (a : Action) :
    gathered f c (before ++ [a]) = gathered f c before ++ f (c.actAll before) a := by
  rw [gathered_append]
  exact congrArg _ (List.append_nil _)

/-! ### The queue -/

/-- The message that an action puts into the queue: what stands there behind all
that stood there before. -/
def put (c : Connection) (a : Action) : List Outgoing :=
  (c.act a).outbox.messages.drop c.outbox.messages.length

/-- The messages that a run puts into the queue, in the order of the queue. -/
def queued : Connection → List Action → List Outgoing := gathered put

/-- What was put into the queue is what was written and, as long as anything is
written, what the writing side has yet to write. -/
structure Queued (c : Connection) (log : List Outgoing) : Prop where
  begins : c.wire <+: log
  all : c.writer.writes = true → log = c.wire ++ (c.writer.message?.toList ++ c.outbox.messages)

theorem queued_start (capacity : Nat) (broken : Option String) :
    (start capacity broken).Queued [] := ⟨List.nil_prefix, fun _ => rfl⟩

theorem Queued.of_all (all : log = c.wire ++ (c.writer.message?.toList ++ c.outbox.messages)) :
    c.Queued log :=
  ⟨all ▸ List.prefix_append _ _, fun _ => all⟩

theorem wire_eq (written : c'.written = c.written) : c'.wire = c.wire := by
  rw [wire, wire, written]

theorem wire_concat (written : c'.written = c.written ++ [message.written]) :
    c'.wire = c.wire ++ [message] := by
  rw [wire, wire, written, List.filterMap_append]
  simp

theorem Queued.act (h : c.Queued log) (a : Action) : (c.act a).Queued (log ++ c.put a) := by
  have put : (c.act a).outbox.messages.drop c.outbox.messages.length = c.put a := rfl
  have step := c.act_queue a
  generalize c.act a = c' at step put
  have last : c'.wire = c.wire → c'.writer.writes = false → c'.Queued (log ++ c.put a) :=
    fun wire silent => ⟨wire ▸ h.begins.trans (List.prefix_append _ _), fun writing =>
      absurd (writing.symm.trans silent) nofun⟩
  -- Where the writing side and the queue are as they were, nothing is put in.
  have same : c'.outbox.messages = c.outbox.messages → c'.writer = c.writer →
      c'.written = c.written → c'.Queued (log ++ c.put a) := by
    intro messages writer written
    by_cases writing : c.writer.writes = true
    · refine .of_all ?_
      rw [← put, messages, List.drop_length, List.append_nil, wire_eq written, writer]
      exact h.all writing
    · exact last (wire_eq written) (writer ▸ Bool.eq_false_iff.2 writing)
  cases step with
  | aside lined views outbox writer written => exact same (by rw [outbox]) writer written
  | waits n message lined before views outbox writer written =>
    exact same (by rw [outbox, Outbox.messages_wait]) writer written
  | puts n message action lined before views place outbox writer written =>
    have messages : c'.outbox.messages = c.outbox.messages ++ [message] := by rw [outbox]; rfl
    by_cases writing : c.writer.writes = true
    · refine .of_all ?_
      rw [← put, messages, List.drop_left, wire_eq written, writer, h.all writing]
      simp only [List.append_assoc]
    · exact last (wire_eq written) (writer ▸ Bool.eq_false_iff.2 writing)
  | takes message lined callers idle take writer written =>
    have messages := (Outbox.take?_eq_some take).1
    refine .of_all ?_
    rw [← put, messages, wire_eq written, writer, h.all (by rw [idle]; rfl), idle, messages]
    simp [Writer.message?]
  | writes message lined callers busy outbox writer written =>
    have none_ : c'.writer.message? = none := by
      rw [writer]
      cases message <;> rfl
    refine .of_all ?_
    rw [← put, outbox, List.drop_length, wire_concat written, none_, h.all (by rw [busy]; rfl),
      busy]
    simp [Writer.message?]
  | ends lined writer wire => exact last wire writer

/-- The messages that were written are the first of those in the queue. -/
theorem queued_actAll (capacity : Nat) (broken : Option String) (actions : List Action) :
    ((start capacity broken).actAll actions).Queued (queued (start capacity broken) actions) := by
  induction actions using List.reverseRecOn with
  | nil => exact queued_start capacity broken
  | append_singleton rest a ih =>
    rw [queued, gathered_concat, actAll_append]
    exact ih.act a

/-! ### The commands -/

/-- The command that an action starts: its caller gets an id for it. -/
def starts (c : Connection) : Action → List Command
  | .run n => if c.connected then ((c.starting n).map Prod.fst).toList else []
  | _ => []

/-- The commands that a run starts, in their order. -/
def started : Connection → List Action → List Command := gathered starts

/-- The messages that commands are sent in if they are numbered from 1 on. -/
def numbered (commands : List Command) : List Outgoing :=
  commands.mapIdx fun i command => .command (i + 1) command

theorem numbered_concat (commands : List Command) (command : Command) :
    numbered (commands ++ [command]) =
      numbered commands ++ [.command (commands.length + 1) command] := by
  rw [numbered, numbered, List.mapIdx_append]
  simp

/-- The commands among some messages. -/
def commandsOf (log : List Outgoing) : List Outgoing := log.filter fun m => m.id?.isSome

/-- The commands that were lined up are those that were started, each with its
number. -/
structure Started (c : Connection) (log : List Outgoing) (commands : List Command) : Prop where
  next : c.commands.nextId = commands.length + 1
  numbered : commandsOf log = numbered commands

theorem Started.act {commands : List Command} (h : c.Started log commands) (a : Action) :
    (c.act a).Started (log ++ c.lined a) (commands ++ c.starts a) := by
  rcases c.nextId_act a with same | ⟨n, command, purpose, rfl, starting, up⟩
  · have noCommand : commandsOf (c.lined a) = [] := by
      rw [commandsOf, List.filter_eq_nil_iff]
      intro message mem
      cases message with
      | close => exact nofun
      | command id command =>
        obtain ⟨n, purpose, -, -, -, -, commands⟩ := starting_of_lined mem
        rw [commands] at same
        exact absurd same (Nat.succ_ne_self _)
    have noStart : c.starts a = [] := by
      refine List.eq_nil_iff_forall_not_mem.2 fun command mem => ?_
      cases a with
      | run n =>
        unfold starts at mem
        dsimp only at mem
        split at mem
        · rename_i up
          obtain ⟨p, starting, -⟩ := Option.map_eq_some_iff.1 (Option.mem_toList.1 mem)
          rw [(starting_up starting up).2.1] at same
          exact absurd same (Nat.succ_ne_self _)
        · cases mem
      | _ => cases mem
    refine ⟨?_, ?_⟩
    · rw [noStart, List.append_nil, same, h.next]
    · rw [noStart, List.append_nil, commandsOf, List.filter_append]
      exact (congrArg _ noCommand).trans ((List.append_nil _).trans h.numbered)
  · have starts : c.starts (.run n) = [command] := by
      simp only [Connection.starts, up, starting, if_true]
      rfl
    refine ⟨?_, ?_⟩
    · rw [(starting_up starting up).2.1, starts, List.length_append]
      exact congrArg (· + 1) h.next
    · rw [lined_of_starting starting up, starts, h.next, numbered_concat, commandsOf,
        List.filter_append]
      exact congrArg (· ++ _) h.numbered

theorem started_actAll (capacity : Nat) (broken : Option String) (actions : List Action) :
    ((start capacity broken).actAll actions).Started (linedUp (start capacity broken) actions)
      (started (start capacity broken) actions) := by
  induction actions using List.reverseRecOn with
  | nil => exact ⟨rfl, rfl⟩
  | append_singleton rest a ih =>
    rw [linedUp_concat, started, gathered_concat, actAll_append]
    exact ih.act a

theorem frames_numbered (commands : List Command) :
    (numbered commands).filterMap Outgoing.frame? =
      commands.mapIdx fun i command => command.frame (i + 1) := by
  induction commands using List.reverseRecOn with
  | nil => rfl
  | append_singleton rest command ih =>
    rw [numbered_concat, List.filterMap_append, ih, List.mapIdx_append]
    simp [Outgoing.frame?, Outgoing.written, Written.frame?]

/-- Only commands are frames. -/
theorem frames_commandsOf (log : List Outgoing) :
    (commandsOf log).filterMap Outgoing.frame? = log.filterMap Outgoing.frame? := by
  rw [commandsOf, List.filterMap_filter]
  refine List.filterMap_congr fun m _ => ?_
  cases m <;> rfl

/-! ### The end -/

/-- Once nothing is written any more, it stays so. -/
theorem wire_of_silent (silent : c.writer.writes = false) (a : Action) :
    (c.act a).writer.writes = false ∧ (c.act a).wire = c.wire := by
  cases c.act_queue a with
  | aside lined views outbox writer written => exact ⟨writer ▸ silent, wire_eq written⟩
  | waits n message lined before views outbox writer written =>
    exact ⟨writer ▸ silent, wire_eq written⟩
  | puts n message action lined before views place outbox writer written =>
    exact ⟨writer ▸ silent, wire_eq written⟩
  | takes message lined callers idle take writer written =>
    rw [idle] at silent
    cases silent
  | writes message lined callers busy outbox writer written =>
    rw [busy] at silent
    cases silent
  | ends lined writer wire => exact ⟨writer, wire⟩

theorem wire_actAll_of_silent (silent : c.writer.writes = false) (actions : List Action) :
    (c.actAll actions).wire = c.wire := by
  have both := actAll_induction
    (P := fun c' => c'.writer.writes = false ∧ c'.wire = c.wire)
    (fun c' a h => ⟨(wire_of_silent h.1 a).1, (wire_of_silent h.1 a).2.trans h.2⟩)
    ⟨silent, rfl⟩ actions
  exact both.2

/-- Nothing is written behind a farewell. -/
structure EndsWithFarewell (c : Connection) : Prop where
  none_yet : c.writer.writes = true → .close ∉ c.wire
  last : ∀ before after, c.wire = before ++ .close :: after → after = []

theorem EndsWithFarewell.act (h : c.EndsWithFarewell) (a : Action) :
    (c.act a).EndsWithFarewell := by
  have step := c.act_queue a
  generalize c.act a = c' at step
  have same : c'.wire = c.wire → (c'.writer.writes = true → c.writer.writes = true) →
      c'.EndsWithFarewell := fun wire writes =>
    ⟨fun writing => wire ▸ h.none_yet (writes writing), wire ▸ h.last⟩
  cases step with
  | aside lined views outbox writer written =>
    exact same (wire_eq written) (by rw [writer]; exact id)
  | waits n message lined before views outbox writer written =>
    exact same (wire_eq written) (by rw [writer]; exact id)
  | puts n message action lined before views place outbox writer written =>
    exact same (wire_eq written) (by rw [writer]; exact id)
  | takes message lined callers idle take writer written =>
    exact same (wire_eq written) fun _ => by rw [idle]; rfl
  | writes message lined callers busy outbox writer written =>
    have none_ := h.none_yet (by rw [busy]; rfl)
    have wire := wire_concat written
    refine ⟨fun writing => ?_, fun before after e => ?_⟩
    · cases message with
      | command id command =>
        rw [wire]
        simpa using none_
      | close =>
        rw [writer] at writing
        cases writing
    · -- A farewell stands nowhere but at the end.
      rw [wire] at e
      rcases List.eq_nil_or_concat after with rfl | ⟨first, last, rfl⟩
      · rfl
      · rw [List.concat_eq_append, ← List.cons_append, ← List.append_assoc] at e
        have first_eq := (List.append_inj' e rfl).1
        exact absurd (first_eq ▸ List.mem_append_right _ List.mem_cons_self) none_
  | ends lined writer wire =>
    exact same wire fun writing => absurd (writing.symm.trans writer) nofun

theorem endsWithFarewell_actAll (capacity : Nat) (broken : Option String) (actions : List Action) :
    ((start capacity broken).actAll actions).EndsWithFarewell :=
  actAll_induction (fun _ a h => h.act a) ⟨fun _ => nofun, fun before _ e => by
    cases before <;> cases e⟩ actions

/-- The next write fails. -/
def FailsToWrite (c : Connection) : Prop := c.writer.message?.isSome ∧ c.broken.isSome

instance : Decidable c.FailsToWrite :=
  inferInstanceAs (Decidable (c.writer.message?.isSome ∧ c.broken.isSome))

theorem FailsToWrite.silent (fails : c.FailsToWrite) :
    (c.act .write).writer.writes = false ∧ (c.act .write).wire = c.wire := by
  obtain ⟨message, broken⟩ := fails
  obtain ⟨fault, broken⟩ := Option.isSome_iff_exists.1 broken
  have write : c.act .write = c.failWriting fault := by
    show c.write = _
    unfold write
    cases hw : c.writer with
    | busy message => simp only [broken]
    | _ =>
      rw [hw] at message
      cases message
  rw [write, failWriting]
  exact ⟨rfl, by split <;> rfl⟩

/-! ### All that is written -/

/-- The messages that were written are the first of the queue. If nobody is
overtaken on the way into the queue, the frames among them are those of the
commands, in the order in which they were started and with the numbers from 1 on as
their ids. Nothing is written behind a farewell, and nothing after a write that
failed. -/
theorem written_in_order (capacity : Nat) (broken : Option String) (actions : List Action) :
    let c := (start capacity broken).actAll actions
    c.wire <+: queued (start capacity broken) actions ∧
      ((start capacity broken).InTurn actions →
        c.wire <+: linedUp (start capacity broken) actions ∧
          c.wire.filterMap Outgoing.frame? <+:
            (started (start capacity broken) actions).mapIdx
              fun i command => command.frame (i + 1)) ∧
      (∀ before after, c.wire = before ++ .close :: after → after = []) ∧
      ∀ before after, actions = before ++ .write :: after →
        ((start capacity broken).actAll before).FailsToWrite →
          c.wire = ((start capacity broken).actAll before).wire := by
  intro c
  refine ⟨(queued_actAll capacity broken actions).begins, fun inTurn => ?_,
    (endsWithFarewell_actAll capacity broken actions).last, ?_⟩
  · have lined := (inOrder_actAll capacity broken inTurn).begins
    refine ⟨lined, ?_⟩
    rw [← frames_numbered, ← (started_actAll capacity broken actions).numbered, frames_commandsOf]
    exact lined.filterMap _
  · rintro before after rfl fails
    obtain ⟨silent, wire⟩ := fails.silent
    have rest : c = (((start capacity broken).actAll before).act .write).actAll after :=
      actAll_append _ _ _
    rw [rest, wire_actAll_of_silent silent, wire]

/-- Two commands and a farewell stand in the queue, nobody was overtaken, and writing
fails from the second command on. -/
theorem written_in_order_broken :
    let before := [.call (.command .ping), .call (.command .getConfig), .call .close,
      .run 0, .run 1, .run 2, .run 0, .run 1, .run 2, .write, .write, .breakWrites "reset", .write]
    let run := before ++ .write :: [.write, .write]
    let c₀ := (start 4 none).actAll before
    let c := (start 4 none).actAll run
    queued (start 4 none) before = [.command 1 .ping, .command 2 .getConfig, .close] ∧
      started (start 4 none) before = [.ping, .getConfig] ∧
      ((start 4 none).InTurn run ∧ c.wire <+: linedUp (start 4 none) run) ∧ c₀.FailsToWrite ∧
      c.wire = c₀.wire ∧ c.wire = [.command 1 .ping] := by
  intro before run c₀ c
  have inTurn : (start 4 none).InTurn run := by decide
  have fails : c₀.FailsToWrite := by decide
  obtain ⟨-, ordered, -, nothingMore⟩ := written_in_order 4 none run
  exact ⟨rfl, rfl, ⟨inTurn, (ordered inTurn).1⟩, fails,
    nothingMore before [.write, .write] rfl fails, rfl⟩

end Connection

end HubAutomation
