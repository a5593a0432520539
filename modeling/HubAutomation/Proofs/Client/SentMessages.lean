import HubAutomation.Proofs.Client.Writing

/-!
# What a caller sends

A caller with a plain command puts one message into the queue, or none if the
command is lost before. On a connection that is up it is not lost: when nobody
can go on any more, the message was written.

- `Connection.sentBy`: the messages that a caller puts into the queue.
- `Connection.Sent`: how far a caller with a command is, and what it has sent.
- `Outbox.Tight`: callers wait for a place only while there is none.
- `Connection.Sent.of_quiet`, `Connection.Reachable.mem_wire`: the message of a
  command was sent, and written.
-/

namespace HubAutomation

/-! ### Places in the queue -/

namespace Outbox

variable {o o' : Outbox} {n : Nat} {message : Outgoing}

/-- Callers wait for a place only while there is none. -/
def Tight (o : Outbox) : Prop := o.waiting ≠ [] → places ≤ o.messages.length + o.granted.length

theorem tight_grant (o : Outbox) : o.grant.Tight := by
  intro waiting
  have waiting : o.waiting.drop (places - (o.messages.length + o.granted.length)) ≠ [] := waiting
  rw [Ne, List.drop_eq_nil_iff, Nat.not_le] at waiting
  show places ≤ o.messages.length + (o.granted ++ o.waiting.take _).length
  rw [List.length_append, List.length_take]
  omega

theorem Tight.use (tight : o.Tight) (place : o.hasPlace n = true) :
    (o.use n message).Tight := by
  intro waiting
  -- The place moves from the caller to its message.
  have before := tight waiting
  have granted := List.length_erase_of_mem (hasPlace_iff.1 place)
  have some_ := List.length_pos_of_mem (hasPlace_iff.1 place)
  show places ≤ (o.messages ++ [message]).length + (o.granted.erase n).length
  rw [granted, List.length_append, List.length_singleton]
  omega

theorem tight_take? (take : o.take? = some (message, o')) : o'.Tight := by
  unfold take? at take
  split at take
  · cases take
  · cases take
    exact tight_grant _

end Outbox

namespace Connection

variable {c : Connection} {n : Nat} {command : Command} {log : List Outgoing}

theorem tight_act (tight : c.writer.writes = true → c.outbox.Tight) (a : Action)
    (writing : (c.act a).writer.writes = true) : (c.act a).outbox.Tight := by
  have step := c.act_queue a
  generalize c.act a = c' at step writing
  cases step with
  | aside lined views outbox writer written =>
    rw [outbox]
    exact tight (writer ▸ writing)
  | waits m message lined before views outbox writer written =>
    rw [outbox]
    exact Outbox.tight_grant _
  | puts m message action lined before views place outbox writer written =>
    rw [outbox]
    exact (tight (writer ▸ writing)).use place
  | takes message lined callers idle take writer written => exact Outbox.tight_take? take
  | writes message lined callers busy outbox writer written =>
    rw [outbox]
    exact tight (by rw [busy]; rfl)
  | ends lined writer wire => exact absurd (writing.symm.trans writer) nofun

theorem Reachable.tight (h : c.Reachable) (writing : c.writer.writes = true) : c.outbox.Tight :=
  h.induction (P := fun c => c.writer.writes = true → c.outbox.Tight) (fun _ _ _ => nofun)
    (fun _ a _ tight => tight_act tight a) writing

/-! ### Messages of one caller -/

/-- The messages that a caller puts into the queue when it goes on. -/
def sends (n : Nat) (c : Connection) : Action → List Outgoing
  | .run m => if m = n then c.put (.run m) else []
  | _ => []

/-- The messages that a caller puts into the queue in a run. -/
def sentBy (n : Nat) : Connection → List Action → List Outgoing := gathered (sends n)

theorem sends_other {a : Action} (other : a ≠ .run n) : sends n c a = [] := by
  cases a with
  | run m => exact if_neg fun same => other (congrArg Action.run same)
  | _ => rfl

theorem sends_own {messages : List Outgoing}
    (put : (c.act (.run n)).outbox.messages = c.outbox.messages ++ messages) :
    sends n c (.run n) = messages := by
  show (if n = n then c.put (.run n) else []) = messages
  rw [if_pos rfl]
  unfold Connection.put
  rw [put, List.drop_left]

theorem sends_nothing (same : (c.act (.run n)).outbox.messages = c.outbox.messages) :
    sends n c (.run n) = [] :=
  sends_own (same.trans (List.append_nil _).symm)

/-- What one caller sends is among what is put into the queue. -/
theorem sentBy_sublist (c : Connection) (actions : List Action) :
    (sentBy n c actions).Sublist (queued c actions) := by
  induction actions generalizing c with
  | nil => exact List.Sublist.slnil
  | cons a rest ih =>
    refine List.Sublist.append ?_ (ih (c.act a))
    by_cases own : a = .run n
    · rw [own, sends, if_pos rfl]
    · rw [sends_other own]
      exact List.nil_sublist _

/-! ### One command, one message -/

/-- How far a caller with a plain command is, and what it has sent. -/
inductive Sent (command : Command) (n : Nat) (c : Connection) : List Outgoing → Prop where
  | ready (at_ : c.callers[n]? = some (.ready (.command command))) : Sent command n c []
  | sending (id : Nat) (at_ : c.callers[n]? = some (.sending id command .plain)) :
    Sent command n c []
  | awaiting (id : Nat) (at_ : c.callers[n]? = some (.awaiting id .plain)) :
    Sent command n c [.command id command]
  | done (id : Nat) (outcome : ClientResult Json)
    (at_ : c.callers[n]? = some (.done (outcome.map .json))) :
    Sent command n c [.command id command]
  /-- The command was lost with the connection. -/
  | lost (reason : String) (at_ : c.callers[n]? = some (.done (.error (.connectionLost reason))))
    (down : c.isUp = false) : Sent command n c []

theorem isUp_act_of_down (down : c.isUp = false) (a : Action) : (c.act a).isUp = false :=
  Bool.eq_false_iff.2 fun up => Bool.eq_false_iff.1 down ((c.act_step a).isUp up)

/-- What the others do neither moves a caller nor sends for it. -/
theorem Sent.other {a : Action} (h : Sent command n c log) (other : a ≠ .run n) :
    Sent command n (c.act a) (log ++ sends n c a) := by
  rw [sends_other other, List.append_nil]
  cases h with
  | ready at_ => exact .ready (caller_act other at_)
  | sending id at_ => exact .sending id (caller_act other at_)
  | awaiting id at_ => exact .awaiting id (caller_act other at_)
  | done id outcome at_ => exact .done id outcome (caller_act other at_)
  | lost reason at_ down => exact .lost reason (caller_act other at_) (isUp_act_of_down down a)

theorem Sent.own (h : Sent command n c log) (writing : c.Writing) :
    Sent command n (c.act (.run n)) (log ++ sends n c (.run n)) := by
  -- By the stage of the caller: only one of them puts a message into the queue.
  cases h with
  | ready at_ =>
    have run : c.act (.run n) = c.startCommand n command .plain := run_ready at_
    unfold startCommand at run
    split at run
    · rw [sends_nothing (by rw [run]; rfl)]
      exact .sending c.commands.nextId (by rw [run]; exact caller_set at_ rfl)
    · rename_i down
      rw [sends_nothing (by rw [run]; rfl)]
      have notUp := writing.down_of_lost (.inl (Bool.eq_false_iff.2 down))
      exact .lost "client is closed" (by rw [run]; exact caller_set at_ rfl)
        (isUp_act_of_down notUp _)
  | sending id at_ =>
    have run := run_sending at_
    split at run
    · rename_i stopped
      rw [sends_nothing (by rw [run]; rfl)]
      exact .lost "writer task has stopped" (by rw [run]; exact caller_set at_ rfl)
        (isUp_act_of_down (writing.down_of_stopped stopped) _)
    · split at run
      · -- This is the one place at which the caller sends.
        have put : (c.act (.run n)).outbox.messages = c.outbox.messages ++ [.command id command] :=
          by rw [run]; rfl
        rw [sends_own put]
        exact .awaiting id (by rw [run]; exact caller_set at_ rfl)
      · rw [sends_nothing (by rw [run])]
        exact .sending id (by rw [run]; exact at_)
  | awaiting id at_ =>
    have run := run_awaiting at_
    unfold collect at run
    split at run
    · rw [sends_nothing (by rw [run])]
      exact .awaiting id (by rw [run]; exact at_)
    · rename_i k outcome parked
      rw [sends_nothing (by rw [run]; rfl)]
      refine .done id outcome ?_
      rw [run]
      have answer : Purpose.plain.answer ((outcome.map fun value => (id, value)).map Prod.snd) =
          outcome.map .json := by
        rw [map_snd_withId]
        rfl
      rw [← answer]
      exact caller_set at_ rfl
  | done id outcome at_ =>
    have run := run_done at_
    rw [sends_nothing (by rw [run]), run]
    exact .done id outcome at_
  | lost reason at_ down =>
    have run := run_done at_
    rw [sends_nothing (by rw [run]), run]
    exact .lost reason at_ down

theorem Sent.actAll (h : Sent command n c log) (reachable : c.Reachable) (actions : List Action) :
    Sent command n (c.actAll actions) (log ++ sentBy n c actions) := by
  induction actions generalizing c log with
  | nil =>
    show Sent command n c (log ++ [])
    rwa [List.append_nil]
  | cons a rest ih =>
    have next : Sent command n (c.act a) (log ++ sends n c a) := by
      by_cases own : a = .run n
      · rw [own]
        exact h.own reachable.writing
      · exact h.other own
    have whole := ih next (reachable.act a)
    rwa [List.append_assoc] at whole

/-- A caller that asks for nothing sends nothing. -/
theorem sentBy_of_nothing
    (h : c.callers[n]? = some (.ready .nothing) ∨ ∃ result, c.callers[n]? = some (.done result))
    (actions : List Action) : sentBy n c actions = [] := by
  induction actions generalizing c with
  | nil => rfl
  | cons a rest ih =>
    have next : sends n c a = [] ∧ ((c.act a).callers[n]? = some (.ready .nothing) ∨
        ∃ result, (c.act a).callers[n]? = some (.done result)) := by
      by_cases own : a = .run n
      · rw [own]
        rcases h with at_ | ⟨result, at_⟩
        · have run : c.act (.run n) = c.finishPlain n := run_ready at_
          exact ⟨sends_nothing (by rw [run]; rfl), .inr ⟨_, by rw [run]; exact caller_set at_ rfl⟩⟩
        · have run := run_done at_
          exact ⟨sends_nothing (by rw [run]), .inr ⟨result, by rw [run]; exact at_⟩⟩
      · refine ⟨sends_other own, ?_⟩
        rcases h with at_ | ⟨result, at_⟩
        · exact .inl (caller_act own at_)
        · exact .inr ⟨result, caller_act own at_⟩
    show sends n c a ++ sentBy n (c.act a) rest = []
    rw [next.1, ih next.2, List.append_nil]

/-! ### Coming to rest -/

theorem canRun_of_place {message : Outgoing} (sends : c.view n CallerState.sends? = some message)
    (place : c.outbox.hasPlace n = true) : c.canRun n = true := by
  obtain ⟨s, at_, sends⟩ := view_eq_some.1 sends
  cases s with
  | sending id command purpose => simp only [canRun, at_, place, Bool.or_true]
  | closing => simp only [canRun, at_, place, Bool.or_true]
  | _ => cases sends

theorem idle_of_still (writing : c.Writing) (up : c.isUp = true) (still : c.canWrite = false) :
    c.writer = .idle ∧ c.outbox.messages = [] := by
  have on := writing.isOn up
  unfold canWrite at still
  split at still
  · rename_i idle
    rw [Bool.or_eq_false_iff, Bool.not_eq_false', List.isEmpty_iff] at still
    exact ⟨idle, still.1⟩
  · cases still
  · cases still
  · rename_i stopped
    rw [stopped] at on
    cases on

/-- On a connection that is up and at rest, nobody waits to put a message in. -/
theorem Reachable.nobody_sends (h : c.Reachable) (up : c.isUp = true)
    (quiet : ∀ m, c.canRun m = false) (still : c.canWrite = false) (n : Nat) :
    c.view n CallerState.sends? = none := by
  obtain ⟨idle, empty⟩ := idle_of_still h.writing up still
  have writing : c.writer.writes = true := by rw [idle]; rfl
  have tight := h.tight writing
  have placed := h.placed writing
  -- Of the callers in line the first has a place, for the queue is empty.
  refine Option.eq_none_iff_forall_ne_some.2 fun message sends => ?_
  have mem : n ∈ c.outbox.granted ++ c.outbox.waiting := (placed.inLine n).2 ⟨message, sends⟩
  cases granted : c.outbox.granted with
  | nil =>
    rw [granted, List.nil_append] at mem
    have full := tight (List.ne_nil_of_mem mem)
    rw [empty, granted] at full
    exact absurd full (by decide)
  | cons m rest =>
    have place : c.outbox.hasPlace m = true :=
      Outbox.hasPlace_iff.2 (granted ▸ List.mem_cons_self)
    obtain ⟨message', sends'⟩ := (placed.inLine m).1 (Outbox.mem_line_of_place place)
    exact Bool.eq_false_iff.1 (quiet m) (canRun_of_place sends' place)

/-- On a connection that is up and at rest, a command was sent. -/
theorem Sent.of_quiet (h : Sent command n c log) (reachable : c.Reachable) (up : c.isUp = true)
    (quiet : ∀ m, c.canRun m = false) (still : c.canWrite = false) :
    ∃ id, log = [.command id command] := by
  cases h with
  | ready at_ =>
    have runs : c.canRun n = true := by simp only [canRun, at_]
    exact absurd (quiet n) (Bool.ne_false_iff.2 runs)
  | sending id at_ =>
    have sends := reachable.nobody_sends up quiet still n
    rw [view, at_] at sends
    cases sends
  | awaiting id at_ => exact ⟨id, rfl⟩
  | done id outcome at_ => exact ⟨id, rfl⟩
  | lost reason at_ down =>
    -- A connection does not come up again.
    rw [up] at down
    cases down

/-- What a caller has sent was written once the connection is at rest. -/
theorem Reachable.mem_wire {actions : List Action} {message : Outgoing} (h : c.Reachable)
    (mem : message ∈ sentBy n c actions) (up : (c.actAll actions).isUp = true)
    (still : (c.actAll actions).canWrite = false) : message ∈ (c.actAll actions).wire := by
  obtain ⟨idle, empty⟩ := idle_of_still (h.actAll actions).writing up still
  obtain ⟨capacity, broken, before, rfl⟩ := h
  have queue := queued_actAll capacity broken (before ++ actions)
  rw [actAll_append] at queue
  have all := queue.all (by rw [idle]; rfl)
  rw [idle, empty, queued, gathered_append] at all
  have wire : ((start capacity broken).actAll before |>.actAll actions).wire =
      gathered put (start capacity broken) before ++
        queued ((start capacity broken).actAll before) actions :=
    (List.append_nil _).symm.trans all.symm
  rw [wire]
  exact List.mem_append_right _ ((sentBy_sublist _ actions).mem mem)

/-- An id is written once at most. -/
theorem Reachable.ids_once (h : c.Reachable) : (c.wire.filterMap Outgoing.id?).Nodup := by
  obtain ⟨capacity, broken, actions, rfl⟩ := h
  obtain ⟨rest, perm⟩ := (lined_actAll capacity broken actions).among
  have all := (perm.filterMap Outgoing.id?).nodup_iff.1 (numbered_actAll capacity broken actions).nodup
  rw [List.filterMap_append] at all
  exact (List.nodup_append.1 all).1

end Connection

end HubAutomation
