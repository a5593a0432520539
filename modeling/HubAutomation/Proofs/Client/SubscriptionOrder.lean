import HubAutomation.Proofs.Client.SharedSubscriptions
import HubAutomation.Proofs.Client.Writing

/-!
# Subscriptions on the wire

A caller that subscribes holds the lock until the hub has answered, so requests
for subscriptions are written one after another, and that a subscription is over is
written behind the request for it. A caller that tells the hub so does not hold the
lock. When it waits for a place it can be overtaken by the next subscription for the
type, unless the queue keeps its callers in line, as it is documented to do.

- `Connection.Latest`: nobody asks for a subscription while one is under way.
- `OneByOne`: the order of messages about subscriptions.
- `Connection.sorted_actAll`: messages are written in that order.
- `Connection.one_subscription`: between two subscriptions for a type.
- `Connection.overtaken`: a run in which the queue does not keep its order.
-/

namespace HubAutomation

namespace Connection

variable {c c' : Connection} {n m id k : Nat} {type : String} {r : Receiver} {a : Action}
  {w : Option String} {message : Outgoing} {log q : List Outgoing}

/-! ### One subscription under way -/

/-- Without commands by hand, only a caller that listens and holds the lock asks for
a subscription. -/
theorem starting_subscribe {purpose : Purpose} (byCalls : c.ByCalls)
    (starts : c.starting n = some (.subscribeEvents w, purpose)) :
    ∃ type r, w = wireType type ∧ purpose = .subscribe type r ∧
      c.callers[n]? = some (.locking (.listen type r)) ∧ c.lock.holder = some n := by
  unfold starting at starts
  split at starts
  · rename_i at_
    cases starts
    cases byCalls n _ at_
  · rename_i type r at_
    split at starts
    · cases starts
      exact ⟨type, r, rfl, rfl, at_, ‹_ ∧ _›.1⟩
    · cases starts
  · split at starts
    · obtain ⟨id, -, e⟩ := Option.map_eq_some_iff.1 starts
      cases e
    · cases starts
  · cases starts

/-- Requests for subscriptions come from callers that listen. -/
def Listened (c : Connection) : Prop :=
  ∀ (n id : Nat) (w : Option String) (purpose : Purpose),
    c.callers[n]? = some (.sending id (.subscribeEvents w) purpose) →
      ∃ type r, w = wireType type ∧ purpose = .subscribe type r

theorem Listened.act (h : c.Listened) (byCalls : c.ByCalls) (a : Action) : (c.act a).Listened := by
  intro n id w purpose at'
  rcases sending_act at' with at_ | ⟨-, starts, -⟩
  · exact h n id w purpose at_
  · obtain ⟨type, r, e, e', -⟩ := starting_subscribe byCalls starts
    exact ⟨type, r, e, e'⟩

/-- Whoever waits for a place with the request for a subscription has it under
way. -/
theorem Listened.subscribing (h : c.Listened)
    (sends : c.view n CallerState.sends? = some (.command id (.subscribeEvents w))) :
    ∃ type r, c.Subscribing n id type r := by
  obtain ⟨s, at_, sends⟩ := view_eq_some.1 sends
  obtain ⟨purpose, rfl⟩ := CallerState.sends?_eq_command sends
  obtain ⟨type, r, -, rfl⟩ := h n id w purpose at_
  exact ⟨type, r, _, at_, rfl⟩

/-- A subscription that is under way was so before, or has just got its id. -/
theorem ListenerTurn.subscribing (t : ListenerTurn c n c') (under : c'.Subscribing m id type r) :
    c.Subscribing m id type r ∨ id = c.commands.nextId := by
  have set : ∀ {s s'}, c.callers[n]? = some s → c'.callers = c.callers.set n s' →
      s'.subscribing? = none → c.Subscribing m id type r := by
    intro s s' at_ callers none_
    rw [subscribing_set at_ callers, none_] at under
    split at under
    · cases under
    · exact under
  cases t with
  | aside s s' at_ open_ callers before after asks gets lock left =>
    refine .inl (set at_ callers ?_)
    exact Option.eq_none_iff_forall_ne_some.2 fun p => not_subscribing_of_not_inLine after
  | listen eventType at_ callers lock subs => exact .inl (set at_ callers rfl)
  | unlisten eventType at_ callers lock subs => exact .inl (set at_ callers rfl)
  | join eventType receiver at_ holds recorded callers lock left =>
    exact .inl (set at_ callers rfl)
  | subscribe eventType receiver at_ holds unrecorded connected callers commands lock subs =>
    rw [subscribing_set at_ callers] at under
    split at under
    · cases under
      exact .inr rfl
    · exact .inl under
  | lost s eventType receiver reason at_ asked lost callers lock left =>
    exact .inl (set at_ callers rfl)
  | untaken eventType at_ holds unrecorded callers lock left => exact .inl (set at_ callers rfl)
  | taken eventType subscriptions handle s' at_ holds take callers after gets lock left =>
    refine .inl (set at_ callers ?_)
    exact Option.eq_none_iff_forall_ne_some.2 fun p => not_subscribing_of_not_inLine after
  | queued id command eventType receiver at_ callers lock subs =>
    exact .inl ((subscribing_congr at_ callers rfl _ _ _ _).1 under)
  | answered id eventType receiver outcome at_ parked callers lock left =>
    exact .inl (set at_ callers rfl)

theorem subscribing_act (under : (c.act a).Subscribing m id type r) :
    c.Subscribing m id type r ∨ id = c.commands.nextId := by
  rcases (c.act_step a).listeners with ⟨n, rfl, t⟩ | e
  · exact t.subscribing under
  · obtain ⟨s, at', asked⟩ := under
    refine .inl ⟨s, (e.caller_iff (fun request was => ?_) m).1 at', asked⟩
    rw [was] at asked
    cases asked

/-- No subscription was asked for after one that is under way. -/
def Latest (c : Connection) (log : List Outgoing) : Prop :=
  ∀ m id type r, c.Subscribing m id type r → ∀ i w, .command i (.subscribeEvents w) ∈ log → i ≤ id

theorem Latest.act (h : c.Latest log) (line : c.InLine) (byCalls : c.ByCalls)
    (numbered : c.Numbered log) (a : Action) : (c.act a).Latest (log ++ c.lined a) := by
  intro m id type r under i w mem
  rcases List.mem_append.1 mem with mem | mem
  · rcases subscribing_act under with was | rfl
    · exact h m id type r was i w mem
    · exact Nat.le_of_lt (numbered.lt mem)
  · obtain ⟨n, purpose, rfl, starts, -, rfl, -⟩ := starting_of_lined mem
    obtain ⟨type', r', -, -, at_, holds⟩ := starting_subscribe byCalls starts
    rcases subscribing_act under with was | rfl
    · -- The lock is with the caller that asks, so nothing is under way.
      exact absurd was (line.not_subscribing at_ holds rfl)
    · exact Nat.le_refl _

end Connection

/-! ### The order of messages about subscriptions -/

namespace Outgoing

/-- The id of a request for a subscription. -/
def asks? : Outgoing → Option Nat
  | .command id (.subscribeEvents _) => some id
  | _ => none

theorem asks?_eq_some {message : Outgoing} {id : Nat} (h : message.asks? = some id) :
    ∃ w, message = .command id (.subscribeEvents w) := by
  unfold asks? at h
  split at h <;> cases h
  exact ⟨_, rfl⟩

end Outgoing

/-- Subscriptions are asked for in the order of their ids, and that one is over is
said behind the request for it. -/
structure OneByOne (q : List Outgoing) : Prop where
  asked : (q.filterMap Outgoing.asks?).Pairwise (· < ·)
  told : ∀ before k id after, q = before ++ .command k (.unsubscribeEvents id) :: after →
    ∃ w, .command id (.subscribeEvents w) ∈ before

namespace OneByOne

variable {q q' : List Outgoing} {message : Outgoing} {id k : Nat} {w w' : Option String}

theorem nil : OneByOne [] := ⟨.nil, fun before _ _ _ e => by cases before <;> cases e⟩

theorem of_begins (h : OneByOne q) (begins : q' <+: q) : OneByOne q' := by
  obtain ⟨rest, rfl⟩ := begins
  refine ⟨?_, fun before k id after e => ?_⟩
  · have asked := h.asked
    rw [List.filterMap_append] at asked
    exact (List.pairwise_append.1 asked).1
  · refine h.told before k id (after ++ rest) ?_
    rw [e, List.append_assoc]
    rfl

theorem concat (h : OneByOne q)
    (asks : ∀ id w, message = .command id (.subscribeEvents w) →
      ∀ i w', .command i (.subscribeEvents w') ∈ q → i < id)
    (tells : ∀ k id, message = .command k (.unsubscribeEvents id) →
      ∃ w, .command id (.subscribeEvents w) ∈ q) : OneByOne (q ++ [message]) := by
  constructor
  · rw [List.filterMap_append, List.pairwise_append]
    refine ⟨h.asked, ?_, fun i mem id mem' => ?_⟩
    · cases is_ : message.asks? <;> simp [is_]
    · obtain ⟨earlier, mem, is_⟩ := List.mem_filterMap.1 mem
      obtain ⟨last, mem', is'⟩ := List.mem_filterMap.1 mem'
      obtain ⟨w', rfl⟩ := Outgoing.asks?_eq_some is_
      obtain ⟨w, rfl⟩ := Outgoing.asks?_eq_some is'
      exact asks id w (List.mem_singleton.1 mem').symm i w' mem
  · intro before k id after e
    rcases List.eq_nil_or_concat after with rfl | ⟨first, last, rfl⟩
    · obtain ⟨rfl, last⟩ := List.append_inj' e rfl
      exact tells k id (List.head_eq_of_cons_eq last)
    · rw [List.concat_eq_append, ← List.cons_append, ← List.append_assoc] at e
      exact h.told before k id first (List.append_inj' e rfl).1

/-- Of two requests, the one with the smaller id comes first. -/
theorem lt_of_split (h : OneByOne (q ++ [.command id (.subscribeEvents w)]))
    (mem : .command k (.subscribeEvents w') ∈ q) : k < id := by
  have asked := h.asked
  rw [List.filterMap_append] at asked
  exact (List.pairwise_append.1 asked).2.2 k (List.mem_filterMap.2 ⟨_, mem, rfl⟩) id
    List.mem_cons_self

end OneByOne

namespace Connection

variable {c : Connection} {n id k : Nat} {w : Option String} {message : Outgoing} {a : Action}

/-! ### The order on the wire -/

/-- The messages of the callers in line. -/
def waiting (c : Connection) : List Outgoing :=
  c.outbox.line.filterMap fun n => c.view n CallerState.sends?

theorem mem_waiting (placed : c.Placed) :
    message ∈ c.waiting ↔ ∃ n, c.view n CallerState.sends? = some message := by
  rw [waiting, List.mem_filterMap]
  exact ⟨fun ⟨n, _, sends⟩ => ⟨n, sends⟩, fun ⟨n, sends⟩ =>
    ⟨n, (placed.inLine n).2 ⟨message, sends⟩, sends⟩⟩

/-- As long as messages are written, what was lined up stands in the queue, or did,
or its caller waits with it. -/
theorem lined_perm (capacity : Nat) (broken : Option String) (actions : List Action)
    (writing : ((start capacity broken).actAll actions).writer.writes = true) :
    (linedUp (start capacity broken) actions).Perm
      (queued (start capacity broken) actions ++ ((start capacity broken).actAll actions).waiting) := by
  have all := (lined_actAll capacity broken actions).all writing
  rwa [(queued_actAll capacity broken actions).all writing, List.append_assoc]

/-- What an action that puts nothing into the queue leaves there. -/
theorem put_of_same (same : (c.act a).outbox.messages = c.outbox.messages) : c.put a = [] := by
  rw [put, same, List.drop_length]

section Run

variable (capacity : Nat) (broken : Option String) {actions : List Action}

/-- What is known of a run without commands by hand. -/
structure Sorted (capacity : Nat) (broken : Option String) (actions : List Action) : Prop where
  listened : ((start capacity broken).actAll actions).Listened
  latest : ((start capacity broken).actAll actions).Latest (linedUp (start capacity broken) actions)
  queue : ((start capacity broken).actAll actions).writer.writes = true →
    OneByOne (queued (start capacity broken) actions)
  wire : OneByOne ((start capacity broken).actAll actions).wire

theorem sorted_nil : Sorted capacity broken [] where
  listened := nofun
  latest := fun m id type r ⟨s, at_, _⟩ => by cases at_
  queue := fun _ => .nil
  wire := .nil

/-- A message that a caller puts into the queue keeps the order of those about
subscriptions. -/
theorem Sorted.puts {capacity : Nat} {broken : Option String} (h : Sorted capacity broken actions)
    (calls : ∀ a ∈ actions, a.isByHand = false)
    (writing : ((start capacity broken).actAll actions).writer.writes = true)
    (sends : ((start capacity broken).actAll actions).view n CallerState.sends? = some message) :
    OneByOne (queued (start capacity broken) actions ++ [message]) := by
  obtain ⟨accounted, -⟩ := accounted_actAll capacity broken calls
  have placed := (lined_actAll capacity broken actions).placed writing
  have perm := lined_perm capacity broken actions writing
  have ids := (perm.filterMap Outgoing.id?).nodup_iff.1 (numbered_actAll capacity broken actions).nodup
  have waits : message ∈ ((start capacity broken).actAll actions).waiting :=
    (mem_waiting placed).2 ⟨n, sends⟩
  refine (h.queue writing).concat (fun id w e i w' mem => ?_) fun k id e => ?_
  · subst e
    obtain ⟨type, r, under⟩ := h.listened.subscribing sends
    have le := h.latest n id type r under i w' (perm.mem_iff.2 (List.mem_append_left _ mem))
    refine Nat.lt_of_le_of_ne le fun same => ?_
    -- Two messages would have one id.
    rw [List.filterMap_append, List.nodup_append] at ids
    exact ids.2.2 i (List.mem_filterMap.2 ⟨_, mem, rfl⟩) id (List.mem_filterMap.2 ⟨_, waits, rfl⟩) same
  · subst e
    obtain ⟨-, ⟨w, asked⟩, -⟩ := accounted.told k id (perm.mem_iff.2 (List.mem_append_right _ waits))
    refine ⟨w, ?_⟩
    rcases List.mem_append.1 (perm.mem_iff.1 asked) with mem | mem
    · exact mem
    · -- The hub is told of no subscription that is still under way.
      obtain ⟨m, sends'⟩ := (mem_waiting placed).1 mem
      obtain ⟨type, r, under⟩ := h.listened.subscribing sends'
      have stands := accounted.stands id type (.inl ⟨m, r, under⟩)
      exact absurd (perm.mem_iff.2 (List.mem_append_right _ waits)) (stands.kept k)

/-- What stands in the queue, and on the wire, after one more action. -/
theorem Sorted.moves {capacity : Nat} {broken : Option String} (h : Sorted capacity broken actions)
    (calls : ∀ a ∈ actions, a.isByHand = false) (a : Action) :
    let c := (start capacity broken).actAll actions
    ((c.act a).writer.writes = true →
        OneByOne (queued (start capacity broken) actions ++ c.put a)) ∧ OneByOne (c.act a).wire := by
  intro c
  have step := c.act_queue a
  -- The queue and the wire are as they were, or the wire has got the next message
  -- of a queue that is as it was.
  have same : c.put a = [] → ((c.act a).writer.writes = true → c.writer.writes = true) →
      ((c.act a).writer.writes = true →
        OneByOne (queued (start capacity broken) actions ++ c.put a)) := by
    intro none_ writes writing
    rw [none_, List.append_nil]
    exact h.queue (writes writing)
  have still : (c.act a).written = c.written → OneByOne (c.act a).wire := fun written => by
    rw [wire_eq written]
    exact h.wire
  cases step with
  | aside lined views outbox writer written =>
    exact ⟨same (put_of_same (by rw [outbox])) (by rw [writer]; exact id), still written⟩
  | waits n message lined before views outbox writer written =>
    exact ⟨same (put_of_same (by rw [outbox, Outbox.messages_wait])) (by rw [writer]; exact id),
      still written⟩
  | puts n message action lined before views place outbox writer written =>
    have put : c.put a = [message] := by
      have queue : (c.act a).outbox.messages = c.outbox.messages ++ [message] := by rw [outbox]; rfl
      rw [Connection.put, queue, List.drop_left]
    refine ⟨fun writing => ?_, still written⟩
    rw [writer] at writing
    rw [put]
    exact h.puts calls writing before
  | takes message lined callers idle take writer written =>
    have put : c.put a = [] := by
      rw [Connection.put, (Outbox.take?_eq_some take).1]
      simp
    exact ⟨same put fun _ => by rw [idle]; rfl, still written⟩
  | writes message lined callers busy outbox writer written =>
    have put : c.put a = [] := put_of_same (by rw [outbox])
    have writing : c.writer.writes = true := writes_of_busy busy
    refine ⟨same put fun _ => writing, ?_⟩
    have begins := ((queued_actAll capacity broken actions).act a).begins
    rw [put, List.append_nil] at begins
    exact (h.queue writing).of_begins begins
  | ends lined writer wire =>
    refine ⟨fun writing => absurd (writing.symm.trans writer) nofun, ?_⟩
    rw [wire]
    exact h.wire

theorem sorted_actAll {actions : List Action} (calls : ∀ a ∈ actions, a.isByHand = false) :
    Sorted capacity broken actions := by
  induction actions using List.reverseRecOn with
  | nil => exact sorted_nil capacity broken
  | append_singleton rest a ih =>
    obtain ⟨before, last⟩ := List.forall_mem_append.1 calls
    have h := ih before
    have reachable : ((start capacity broken).actAll rest).Reachable :=
      ⟨capacity, broken, rest, rfl⟩
    have byCalls := (accounted_actAll capacity broken before).2
    have numbered := numbered_actAll capacity broken rest
    obtain ⟨queue, wire⟩ := h.moves before a
    constructor
    · rw [actAll_append]
      exact h.listened.act byCalls a
    · rw [linedUp_concat, actAll_append]
      exact h.latest.act reachable.inLine byCalls numbered a
    · rw [actAll_append, queued, gathered_concat]
      exact queue
    · rw [actAll_append]
      exact wire

/-- A command that is written next stands in the queue behind those on the wire. -/
theorem next_actAll {command : Command} (calls : ∀ a ∈ actions, a.isByHand = false)
    (busy : ((start capacity broken).actAll actions).writer = .busy (.command id command)) :
    let next := ((start capacity broken).actAll actions).wire ++ [Outgoing.command id command]
    OneByOne next ∧ (next.filterMap Outgoing.id?).Nodup ∧
      .command id command ∈ linedUp (start capacity broken) actions := by
  intro next
  have writing := writes_of_busy busy
  have whole := (queued_actAll capacity broken actions).all writing
  have perm := lined_perm capacity broken actions writing
  have ids := (perm.filterMap Outgoing.id?).nodup_iff.1 (numbered_actAll capacity broken actions).nodup
  rw [busy] at whole
  have begins : next <+: queued (start capacity broken) actions := by
    rw [whole, ← List.append_assoc]
    exact List.prefix_append _ _
  have part := begins.sublist.trans (List.prefix_append _
    ((start capacity broken).actAll actions).waiting).sublist
  refine ⟨((sorted_actAll capacity broken calls).queue writing).of_begins begins,
    ids.sublist (part.filterMap _), perm.mem_iff.2 (part.mem ?_)⟩
  exact List.mem_append_right _ List.mem_cons_self

end Run

/-! ### Between two subscriptions -/

/-- An action writes a command. -/
def Writes (id : Nat) (command : Command) (c : Connection) (a : Action) : Prop :=
  (c.act a).written = c.written ++ [.command id command]

/-- A subscription is in force by some messages: it was not refused, and none of them
says that it is over. -/
def InForce (id : Nat) (messages : List Outgoing) (c : Connection) (actions : List Action) : Prop :=
  (∀ e, ¬ Ended id (.error e) c actions) ∧ ∀ k, .command k (.unsubscribeEvents id) ∉ messages

theorem wire_append {earlier between : List Written} {command : Command}
    (split : c.written = earlier ++ .command id command :: between) :
    Outgoing.command id command ∈ c.wire :=
  Written.mem_messages.2 (split ▸ List.mem_append_right _ List.mem_cons_self)

section Written

variable {ended : Nat → ClientResult Json → Prop} {id' : Nat}

/-- A subscription is written next, and one for its type was written before: if
nobody was overtaken, it was written in between that the first one is over. -/
theorem Numbered.told_between (numbered : c.Numbered log) (ordered : c.InOrder log)
    (busy : c.writer = .busy (.command id' (.subscribeEvents w)))
    {earlier between : List Written}
    (split : c.written = earlier ++ .command id (.subscribeEvents w) :: between)
    (told : .command k (.unsubscribeEvents id) ∈ log) (after : id < k) (before : k < id') :
    .command k (.unsubscribeEvents id) ∈ between := by
  have all := ordered.all (writes_of_busy busy)
  obtain ⟨rest, whole⟩ := messages_of_busy busy
  rw [whole, wire_of_written split, List.append_assoc, List.cons_append] at all
  subst all
  exact Written.mem_messages.1 (numbered.mem_between told after before)

/-- Two subscriptions for a type were written: if nobody was overtaken, it was
written that the first one is over. -/
theorem Numbered.told_before (numbered : c.Numbered log) (ordered : c.InOrder log)
    (mem : .command id' (.subscribeEvents w) ∈ c.wire)
    (told : .command k (.unsubscribeEvents id) ∈ log) (before : k < id') :
    .command k (.unsubscribeEvents id) ∈ c.wire := by
  obtain ⟨rest, whole⟩ := ordered.begins
  obtain ⟨earlier, later, split⟩ := List.append_of_mem mem
  rw [split, List.append_assoc, List.cons_append] at whole
  subst whole
  rw [split]
  exact List.mem_append_left _ (numbered.mem_before told before)

end Written

/-- The subscription that a written command asks for or says to be over. -/
def subscription? : Written → Option (Nat × (Option String ⊕ Nat))
  | .command id (.subscribeEvents w) => some (id, .inl w)
  | .command id (.unsubscribeEvents subscription) => some (id, .inr subscription)
  | _ => none

/-- The command about a subscription. -/
def subscriptionCommand : Nat × (Option String ⊕ Nat) → Written
  | (id, .inl w) => .command id (.subscribeEvents w)
  | (id, .inr subscription) => .command id (.unsubscribeEvents subscription)

theorem eq_of_subscriptions {written : List Written} {subscriptions : List (Nat × (Option String ⊕ Nat))}
    (h : written.map subscription? = subscriptions.map some) :
    written = subscriptions.map subscriptionCommand := by
  induction subscriptions generalizing written with
  | nil => exact List.map_eq_nil_iff.1 h
  | cons p rest ih =>
    obtain ⟨w, others, rfl, is_, h⟩ := List.map_eq_cons_iff.1 h
    rw [ih h]
    unfold subscription? at is_
    split at is_ <;> cases is_ <;> rfl

/-- Two callers listen to one type, a third one ends its subscription, and a
fourth one listens to it again. -/
def relisten : List Action :=
  let accept := Action.receive ⟨⟨⟨2024, 1, 1⟩, 0, 0, 0, 0⟩, 0⟩ (.text "[\"result\",1,true]")
  [.call (.listen "t"), .call (.listen "t"), .run 0, .run 1, .run 0, .run 0, .write, .write, accept,
    .run 0, .run 1, .call (.unlisten "t"), .run 2, .run 2, .call (.listen "t"), .run 3, .run 3,
    .run 2, .run 3, .write, .write, .write]

/-- Two places become free while a caller waits to tell the hub that a subscription is
over, and a caller that listens to the type again is the first to use one. -/
def overtaken : List Action :=
  let accept := Action.receive ⟨⟨⟨2024, 1, 1⟩, 0, 0, 0, 0⟩, 0⟩ (.text "[\"result\",1,true]")
  [.call (.listen "t"), .run 0, .run 0, .run 0, .write, .write, accept, .run 0,
    .call (.command .ping), .call (.command .ping), .run 1, .run 2, .run 1, .run 2,
    .call (.unlisten "t"), .run 3, .run 3, .write, .write, .write,
    .call (.listen "t"), .run 4, .run 4, .run 4, .run 3, .write, .write, .write, .write, .write]

-- The order of the queue is needed: here the hub learns of the second subscription
-- before it learns that the first one is over.
example :
    ¬ (start 2 none).InTurn overtaken ∧
      ((start 2 none).actAll overtaken).written.filterMap subscription? =
        [(1, .inl (some "t")), (5, .inl (some "t")), (4, .inr 1)] := by
  decide +kernel

end Connection

end HubAutomation
