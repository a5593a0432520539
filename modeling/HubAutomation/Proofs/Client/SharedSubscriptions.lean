import HubAutomation.Proofs.Client.Routes
import HubAutomation.Proofs.Client.WireOrder

/-!
# Shared subscriptions

Listeners of one type share one subscription at the hub. A second one for the
type is asked for only after the first was refused, or after a caller began to
tell the hub that the first is over; and it is told so once, and only of
subscriptions that it accepted.

- `Connection.Ended`: how a command ended in a run.
- `Connection.Current`: the subscription of a type, recorded or under way.
- `CurrentStep`: what an action does to these.
- `Connection.Accounted`: what was lined up, and what became of it.
-/

namespace HubAutomation

namespace Command

/-- Whether a command begins or ends a subscription. -/
def isSubscription : Command → Bool
  | .subscribeEvents _ | .unsubscribeEvents _ => true
  | _ => false

end Command

/-- Whether a caller sends a command for subscriptions by hand. -/
def Request.isByHand : Request → Bool
  | .command c => c.isSubscription
  | _ => false

namespace Connection

variable {c c' : Connection} {n id : Nat} {type : String} {a : Action} {log : List Outgoing}

/-- Whether an action brings a caller that sends a command for subscriptions by
hand. -/
def Action.isByHand : Action → Bool
  | .call request => request.isByHand
  | _ => false

/-- At some moment of a run a command ended with an outcome. -/
def Ended (id : Nat) (outcome : ClientResult Json) : Connection → List Action → Prop :=
  Sometime fun c a => (id, outcome) ∈ (c.act a).outcomes

/-- All callers begin with requests other than commands for subscriptions. -/
def ByCalls (c : Connection) : Prop :=
  ∀ (n : Nat) (request : Request), c.callers[n]? = some (.ready request) → request.isByHand = false

theorem ByCalls.act (h : c.ByCalls) (calls : a.isByHand = false) : (c.act a).ByCalls := by
  intro n request at'
  rcases ready_act at' with at_ | rfl
  · exact h n request at_
  · exact calls

/-! ### The subscription of a type -/

/-- The subscription of a type is recorded or under way. -/
def Current (c : Connection) (id : Nat) (type : String) : Prop :=
  (∃ m r, c.Subscribing m id type r) ∨ c.subscriptions.hub.find? type = some (some id)

theorem wireType_injective {type type' : String} (h : wireType type = wireType type') :
    type = type' := by
  unfold wireType at h
  split at h <;> split at h
  · rw [‹type = _›, ‹type' = _›]
  · cases h
  · cases h
  · exact Option.some.inj h

/-- What an action does to the subscriptions of types. -/
inductive CurrentStep (c : Connection) (a : Action) (c' : Connection) : Prop where
  /-- None begins, and the hub is told of none that it is over. -/
  | quiet (lined : ∀ id command, .command id command ∈ c.lined a → command.isSubscription = false)
      (current : ∀ id type, c'.Current id type → c.Current id type)
      (gone : ∀ id type, c.Current id type → c'.Current id type ∨ c'.connected = false ∨
        ∃ e, (id, .error e) ∈ c.outcomes)
      (recorded : ∀ id type, c'.subscriptions.hub.find? type = some (some id) →
        c.subscriptions.hub.find? type = some (some id) ∨ ∃ value, (id, .ok value) ∈ c.outcomes)
  | begins (type : String) (free : ∀ id, ¬ c.Current id type) (connected : c.connected = true)
      (lined : c.lined a = [.command c.commands.nextId (.subscribeEvents (wireType type))])
      (current : ∀ id type', c'.Current id type' ↔
        c.Current id type' ∨ id = c.commands.nextId ∧ type' = type)
      (hub : c'.subscriptions.hub = c.subscriptions.hub)
  | ends (type : String) (id : Nat) (was : c.subscriptions.hub.find? type = some (some id))
      (only : ∀ i, c.Current i type → i = id)
      (lined : c.lined a = [.command c.commands.nextId (.unsubscribeEvents id)])
      (current : ∀ id type', c'.Current id type' ↔ c.Current id type' ∧ type' ≠ type)
      (recorded : ∀ id type', c'.subscriptions.hub.find? type' = some (some id) →
        c.subscriptions.hub.find? type' = some (some id))

theorem LeftWith.hub {s : Subscriptions} (left : LeftWith s c') : c'.subscriptions.hub = s.hub :=
  left.routes.2.2

theorem CurrentStep.of_same
    (lined : ∀ id command, .command id command ∈ c.lined a → command.isSubscription = false)
    (hub : c'.subscriptions.hub = c.subscriptions.hub)
    (under : ∀ m id type r, c'.Subscribing m id type r ↔ c.Subscribing m id type r) :
    CurrentStep c a c' := by
  have same : ∀ id type, c'.Current id type ↔ c.Current id type := by
    intro id type
    unfold Current
    rw [hub]
    exact or_congr_left (exists_congr fun m => exists_congr fun r => under m id type r)
  refine .quiet lined (fun id type => (same id type).1) (fun id type h => .inl ((same id type).2 h))
    fun id type h => ?_
  rw [hub] at h
  exact .inl h

theorem starting_eq_of_not_locking {s : CallerState} {command : Command} {purpose : Purpose}
    (h : c.ByCalls) (at_ : c.callers[n]? = some s) (free : s.lockPurpose? = none)
    (starts : c.starting n = some (command, purpose)) : command.isSubscription = false := by
  unfold starting at starts
  rw [at_] at starts
  split at starts
  · rename_i e
    cases e
    cases starts
    exact h n _ at_
  · rename_i e
    cases e
    cases free
  · rename_i e
    cases e
    cases free
  · cases starts

/-- What is lined up in a turn is what the caller starts. -/
theorem quiet_of_starting
    (quiet : ∀ command purpose, c.starting n = some (command, purpose) → c.connected = true →
      command.isSubscription = false) (id : Nat) (command : Command)
    (h : .command id command ∈ c.lined (.run n)) : command.isSubscription = false := by
  obtain ⟨m, purpose, e, starts, connected, -⟩ := starting_of_lined h
  cases e
  exact quiet command purpose starts connected

/-- A caller that neither waits for the lock nor has a subscription under way
changes none. -/
theorem CurrentStep.of_aside {s s' : CallerState} (byCalls : c.ByCalls)
    (at_ : c.callers[n]? = some s) (free : s.lockPurpose? = none)
    (callers : c'.callers = c.callers.set n s') (same : s'.subscribing? = s.subscribing?)
    (hub : c'.subscriptions.hub = c.subscriptions.hub) : CurrentStep c (.run n) c' := by
  refine .of_same (quiet_of_starting fun command purpose starts _ => ?_) hub
    (subscribing_congr at_ callers same)
  exact starting_eq_of_not_locking byCalls at_ free starts

/-- A caller begins a subscription. -/
theorem CurrentStep.of_subscribe {r : Receiver} (line : c.InLine)
    (at_ : c.callers[n]? = some (.locking (.listen type r))) (holds : c.lock.holder = some n)
    (unrecorded : c.subscriptions.isSubscribed type = false) (connected : c.connected = true)
    (callers : c'.callers = c.callers.set n (.sending c.commands.nextId
      (.subscribeEvents (wireType type)) (.subscribe type r)))
    (hub : c'.subscriptions.hub = c.subscriptions.hub) : CurrentStep c (.run n) c' := by
  have starts : c.starting n = some (.subscribeEvents (wireType type), .subscribe type r) := by
    simp only [starting, at_]
    rw [if_pos ⟨holds, unrecorded⟩]
  have nobody : ∀ m id type r, ¬ c.Subscribing m id type r :=
    fun m id type r => line.not_subscribing at_ holds rfl
  refine .begins type (fun id => ?_) connected (lined_of_starting starts connected)
    (fun id type' => ?_) hub
  · rintro (⟨m, r', w⟩ | recorded)
    · exact nobody _ _ _ _ w
    · rw [Subscriptions.isSubscribed_eq_false.1 unrecorded] at recorded
      cases recorded
  · unfold Current
    rw [hub]
    constructor
    · rintro (⟨m, r', w⟩ | recorded)
      · rw [subscribing_set at_ callers] at w
        split at w
        · cases w
          exact .inr ⟨rfl, rfl⟩
        · exact absurd w (nobody _ _ _ _)
      · exact .inl (.inr recorded)
    · rintro ((⟨m, r', w⟩ | recorded) | ⟨rfl, rfl⟩)
      · exact absurd w (nobody _ _ _ _)
      · exact .inr recorded
      · refine .inl ⟨n, r, ?_⟩
        rw [subscribing_set at_ callers, if_pos rfl]
        rfl

/-- A subscription is lost with the connection. -/
theorem CurrentStep.of_lost {s : CallerState} {result : ClientResult CallValue}
    (at_ : c.callers[n]? = some s) (callers : c'.callers = c.callers.set n (.done result))
    (hub : c'.subscriptions.hub = c.subscriptions.hub) (down : c.connected = false)
    (down' : c'.connected = false) : CurrentStep c (.run n) c' := by
  refine .quiet (quiet_of_starting fun command purpose _ up => ?_) (fun id type h => ?_)
    (fun _ _ _ => .inr (.inl down')) fun id type h => ?_
  · rw [down] at up
    cases up
  · unfold Current at h
    rw [hub] at h
    refine h.imp_left fun ⟨m, r, w⟩ => ⟨m, r, ?_⟩
    rw [subscribing_set at_ callers] at w
    split at w
    · cases w
    · exact w
  · rw [hub] at h
    exact .inl h

/-- While nobody has a subscription under way, what is recorded is current. -/
theorem current_iff_recorded (nobody : ∀ m id type r, ¬ c.Subscribing m id type r) :
    c.Current id type ↔ c.subscriptions.hub.find? type = some (some id) :=
  or_iff_right fun ⟨_, _, w⟩ => nobody _ _ _ _ w

/-- A subscription ends. The hub is told if it is known under an id. -/
theorem CurrentStep.of_take {s' : CallerState} {subscriptions : Subscriptions} {handle : Option Nat}
    (line : c.InLine) (at_ : c.callers[n]? = some (.locking (.unlisten type)))
    (holds : c.lock.holder = some n)
    (take : c.subscriptions.take type = some (subscriptions, handle))
    (callers : c'.callers = c.callers.set n s') (after : s'.inLine = false)
    (hub : c'.subscriptions.hub = subscriptions.hub)
    (down : c.connected = false → c'.connected = false) : CurrentStep c (.run n) c' := by
  have found := (Subscriptions.take_eq_some take).1
  have under := subscribing_congr at_ callers
    (Option.eq_none_iff_forall_ne_some.2 fun p => not_subscribing_of_not_inLine after)
  -- The caller holds the lock, so what is current is what is recorded.
  have nobody : ∀ m id type r, ¬ c.Subscribing m id type r :=
    fun m id type r => line.not_subscribing at_ holds rfl
  have nobody' : ∀ m id type r, ¬ c'.Subscribing m id type r :=
    fun m id type r w => nobody m id type r ((under m id type r).1 w)
  have recorded : ∀ id type', c'.subscriptions.hub.find? type' = some (some id) ↔
      c.subscriptions.hub.find? type' = some (some id) ∧ type' ≠ type := by
    intro id type'
    rw [hub]
    exact Subscriptions.recorded_take take
  have current : ∀ id type', c'.Current id type' ↔ c.Current id type' ∧ type' ≠ type := by
    intro id type'
    rw [current_iff_recorded nobody', current_iff_recorded nobody, recorded]
  have same : ∀ id type', c'.subscriptions.hub.find? type' = some (some id) →
      c.subscriptions.hub.find? type' = some (some id) := fun id type' h => ((recorded id type').1 h).1
  have starting : c.starting n = handle.map fun id => (.unsubscribeEvents id, .unsubscribe) := by
    simp only [Connection.starting, at_]
    rw [if_pos holds, found]
    rfl
  cases handle with
  | none =>
    refine .quiet (quiet_of_starting fun command purpose starts _ => ?_)
      (fun id type' h => ((current id type').1 h).1) (fun id type' h => .inl ?_)
      fun id type' h => .inl (same id type' h)
    · rw [starting] at starts
      cases starts
    · -- What ends has no id, so it is not current.
      refine (current id type').2 ⟨h, ?_⟩
      rintro rfl
      rw [current_iff_recorded nobody, found] at h
      cases h
  | some id =>
    cases connected : c.connected with
    | true =>
      refine .ends type id found (fun i h => ?_) (lined_of_starting starting connected) current same
      rw [current_iff_recorded nobody, found] at h
      cases h
      rfl
    | false =>
      refine .quiet (quiet_of_starting fun command purpose _ up => ?_)
        (fun id type' h => ((current id type').1 h).1) (fun _ _ _ => .inr (.inl (down connected)))
        fun id type' h => .inl (same id type' h)
      rw [connected] at up
      cases up

/-- A subscription is answered. -/
theorem CurrentStep.of_answer {r : Receiver} {outcome : ClientResult Json}
    {result : ClientResult CallValue} (line : c.InLine) (routed : c.Routed)
    (at_ : c.callers[n]? = some (.awaiting id (.subscribe type r)))
    (parked : (id, outcome) ∈ c.outcomes) (callers : c'.callers = c.callers.set n (.done result))
    (hub : c'.subscriptions.hub = (c.subscriptions.answered id type r outcome).hub) :
    CurrentStep c (.run n) c' := by
  have mine : c.Subscribing n id type r := ⟨_, at_, rfl⟩
  have recorded : ∀ i type', c'.subscriptions.hub.find? type' = some (some i) ↔
      c.subscriptions.hub.find? type' = some (some i) ∨
        type' = type ∧ i = id ∧ ∃ value, outcome = .ok value := by
    intro i type'
    rw [hub]
    exact Subscriptions.recorded_answered (routed.fresh n id type r mine)
  refine .quiet (quiet_of_starting fun command purpose starts _ => ?_) (fun i type' h => ?_)
    (fun i type' h => ?_) fun i type' h => ?_
  · simp only [starting, at_] at starts
    cases starts
  · rcases h with ⟨m, r', w⟩ | h
    · rw [subscribing_set at_ callers] at w
      split at w
      · cases w
      · exact .inl ⟨m, r', w⟩
    · rcases (recorded i type').1 h with old | ⟨rfl, rfl, -⟩
      · exact .inr old
      · exact .inl ⟨n, r, mine⟩
  · rcases h with ⟨m, r', w⟩ | old
    · obtain ⟨-, rfl, rfl⟩ := line.subscribing_unique w mine
      cases outcome with
      | ok value => exact .inl (.inr ((recorded i type').2 (.inr ⟨rfl, rfl, value, rfl⟩)))
      | error e => exact .inr (.inr ⟨e, parked⟩)
    · exact .inl (.inr ((recorded i type').2 (.inl old)))
  · rcases (recorded i type').1 h with old | ⟨rfl, rfl, value, rfl⟩
    · exact .inl old
    · exact .inr ⟨value, parked⟩

theorem ListenerTurn.current (t : ListenerTurn c n c') (line : c.InLine) (routed : c.Routed)
    (writing : c.Writing) (byCalls : c.ByCalls) (down : c.connected = false → c'.connected = false) :
    CurrentStep c (.run n) c' := by
  cases t with
  | aside s s' at_ open_ callers before after asks gets lock left =>
    have free : s.lockPurpose? = none := by
      unfold CallerState.inLine at before
      rw [Bool.or_eq_false_iff] at before
      exact Option.isNone_iff_eq_none.1 (by simpa using before.1)
    refine .of_aside byCalls at_ free callers ?_ left.hub
    rw [Option.eq_none_iff_forall_ne_some.2 fun p => not_subscribing_of_not_inLine before,
      Option.eq_none_iff_forall_ne_some.2 fun p => not_subscribing_of_not_inLine after]
  | listen eventType at_ callers lock subs =>
    refine .of_aside byCalls at_ rfl callers rfl ?_
    rw [subs, Subscriptions.hub_stream]
  | unlisten eventType at_ callers lock subs =>
    refine .of_aside byCalls at_ rfl callers rfl ?_
    rw [subs]
  | join eventType receiver at_ holds recorded callers lock left =>
    refine .of_same (quiet_of_starting fun command purpose starts _ => ?_) left.hub
      (subscribing_congr at_ callers rfl)
    simp only [starting, at_] at starts
    rw [if_neg (by simp [recorded])] at starts
    cases starts
  | subscribe eventType receiver at_ holds unrecorded connected callers commands lock subs =>
    refine .of_subscribe line at_ holds unrecorded connected callers ?_
    rw [subs]
    rfl
  | lost s eventType receiver reason at_ asked lost callers lock left =>
    -- A caller holds the client, so a writing side that stopped means a connection
    -- that is down.
    have isDown : c.connected = false := by
      have open_ : s.isDone = false := by
        rcases asked with ⟨rfl, -⟩ | ⟨id, asked⟩
        · rfl
        · cases s <;> first | rfl | cases asked
      have notUp := writing.down_of_lost lost
      rw [isUp, isHeld_of_caller at_ open_, Bool.and_true] at notUp
      exact notUp
    exact .of_lost at_ callers left.hub isDown (down isDown)
  | untaken eventType at_ holds unrecorded callers lock left =>
    refine .of_same (quiet_of_starting fun command purpose starts _ => ?_) left.hub
      (subscribing_congr at_ callers rfl)
    have none_ : c.subscriptions.hub.find? eventType = none := Option.map_eq_none_iff.1 unrecorded
    simp only [starting, at_] at starts
    rw [if_pos holds, none_] at starts
    cases starts
  | taken eventType subscriptions handle s' at_ holds take callers after gets lock left =>
    exact .of_take line at_ holds take callers after left.hub down
  | queued id command eventType receiver at_ callers lock subs =>
    refine .of_aside byCalls at_ rfl callers rfl ?_
    rw [subs]
  | answered id eventType receiver outcome at_ parked callers lock left =>
    exact .of_answer line routed at_ parked callers left.hub

theorem ListenerEvent.current (e : ListenerEvent c a (c.act a)) : CurrentStep c a (c.act a) := by
  have under : ∀ m id type r,
      (c.act a).Subscribing m id type r ↔ c.Subscribing m id type r := by
    intro m id type r
    refine exists_congr fun s => and_congr_left fun asked => e.caller_iff (fun request was => ?_) m
    rw [was] at asked
    cases asked
  refine .of_same (fun id command h => ?_) ?_ under
  · -- Without a turn, no caller begins to wait.
    obtain ⟨n, -, before, after⟩ := mem_lined h
    have was := e.view (fun _ => rfl) after
    rw [before] at was
    cases was
  · cases e with
    | quiet silent callers lock left => exact left.hub
    | event frame reading brings callers lock subs => rw [subs, Subscriptions.hub_dispatch]

/-- What an action does to the subscriptions of types. -/
theorem Reachable.current (h : c.Reachable) (byCalls : c.ByCalls) (a : Action) :
    CurrentStep c a (c.act a) := by
  have down : c.connected = false → (c.act a).connected = false := fun down =>
    Bool.eq_false_iff.2 fun up => Bool.eq_false_iff.1 down ((c.act_step a).connected up)
  rcases (c.act_step a).listeners with ⟨n, rfl, t⟩ | e
  · exact t.current h.inLine h.routed h.writing byCalls down
  · exact e.current

/-! ### What was lined up -/

/-- A subscription of a type was asked for, and the hub was not told that it is
over. -/
structure Stands (log : List Outgoing) (id : Nat) (type : String) : Prop where
  asked : .command id (.subscribeEvents (wireType type)) ∈ log
  kept : ∀ k, .command k (.unsubscribeEvents id) ∉ log

/-- What was lined up for subscriptions, and how these ended. -/
structure Accounted (c : Connection) (log : List Outgoing)
    (ended : Nat → ClientResult Json → Prop) : Prop where
  stands : ∀ id type, c.Current id type → Stands log id type
  accepted : ∀ id type, c.subscriptions.hub.find? type = some (some id) →
    ∃ value, ended id (.ok value)
  /-- A subscription that is not current any more was refused, or the hub was told
  that it is over. -/
  spent : c.connected = true → ∀ id w, .command id (.subscribeEvents w) ∈ log →
    (∃ type, w = wireType type ∧ c.Current id type) ∨ (∃ e, ended id (.error e)) ∨
      ∃ k, .command k (.unsubscribeEvents id) ∈ log
  /-- That was so when the next one of its type was asked for. -/
  shared : ∀ id id' w, .command id (.subscribeEvents w) ∈ log →
    .command id' (.subscribeEvents w) ∈ log → id < id' →
      (∃ e, ended id (.error e)) ∨ ∃ k < id', .command k (.unsubscribeEvents id) ∈ log
  /-- The hub is told once, and only of subscriptions that it accepted. -/
  told : ∀ k id, .command k (.unsubscribeEvents id) ∈ log →
    id < k ∧ (∃ w, .command id (.subscribeEvents w) ∈ log) ∧ (∃ value, ended id (.ok value)) ∧
      ∀ k', .command k' (.unsubscribeEvents id) ∈ log → k' = k

theorem Stands.append {more : List Outgoing} (h : Stands log id type)
    (kept : ∀ k, .command k (.unsubscribeEvents id) ∉ more) : Stands (log ++ more) id type where
  asked := List.mem_append_left _ h.asked
  kept := by
    intro k mem
    rcases List.mem_append.1 mem with mem | mem
    · exact h.kept k mem
    · exact kept k mem

theorem accounted_start (capacity : Nat) (broken : Option String)
    (ended : Nat → ClientResult Json → Prop) : (start capacity broken).Accounted [] ended where
  stands := by
    rintro id type (⟨m, r, s, at_, -⟩ | recorded)
    · cases at_
    · cases recorded
  accepted := nofun
  spent := nofun
  shared := nofun
  told := nofun

section Steps

variable {ended ended' : Nat → ClientResult Json → Prop} {more : List Outgoing}

/-- Nothing is lined up that concerns subscriptions. -/
theorem Accounted.quiet (h : c.Accounted log ended)
    (keeps : ∀ id outcome, ended id outcome → ended' id outcome)
    (parked : ∀ id outcome, (id, outcome) ∈ c.outcomes → ended' id outcome)
    (up : c'.connected = true → c.connected = true)
    (quiet : ∀ id command, .command id command ∈ more → command.isSubscription = false)
    (current : ∀ id type, c'.Current id type → c.Current id type)
    (gone : ∀ id type, c.Current id type → c'.Current id type ∨ c'.connected = false ∨
      ∃ e, (id, .error e) ∈ c.outcomes)
    (recorded : ∀ id type, c'.subscriptions.hub.find? type = some (some id) →
      c.subscriptions.hub.find? type = some (some id) ∨ ∃ value, (id, .ok value) ∈ c.outcomes) :
    c'.Accounted (log ++ more) ended' := by
  -- What is added says nothing about subscriptions.
  have old : ∀ {id command}, command.isSubscription = true →
      .command id command ∈ log ++ more → Outgoing.command id command ∈ log := by
    intro id command isSubscription mem
    rcases List.mem_append.1 mem with mem | mem
    · exact mem
    · rw [quiet id command mem] at isSubscription
      cases isSubscription
  have new : ∀ {message}, message ∈ log → message ∈ log ++ more := List.mem_append_left _
  refine ⟨fun id type h' => ?_, fun id type h' => ?_, fun up' id w mem => ?_,
    fun id id' w mem mem' lt => ?_, fun k id mem => ?_⟩
  · refine (h.stands id type (current id type h')).append fun k mem => ?_
    cases quiet _ _ mem
  · rcases recorded id type h' with old | ⟨value, mem⟩
    · exact (h.accepted id type old).imp fun value => keeps _ _
    · exact ⟨value, parked _ _ mem⟩
  · rcases h.spent (up up') id w (old rfl mem) with ⟨type, e, is_⟩ | ⟨e, is_⟩ | ⟨k, mem⟩
    · rcases gone id type is_ with still | down | ⟨e', mem⟩
      · exact .inl ⟨type, e, still⟩
      · rw [up'] at down
        cases down
      · exact .inr (.inl ⟨e', parked _ _ mem⟩)
    · exact .inr (.inl ⟨e, keeps _ _ is_⟩)
    · exact .inr (.inr ⟨k, new mem⟩)
  · rcases h.shared id id' w (old rfl mem) (old rfl mem') lt with ⟨e, is_⟩ | ⟨k, le, mem⟩
    · exact .inl ⟨e, keeps _ _ is_⟩
    · exact .inr ⟨k, le, new mem⟩
  · obtain ⟨lt, ⟨w, asked⟩, ⟨value, is_⟩, once⟩ := h.told k id (old rfl mem)
    exact ⟨lt, ⟨w, new asked⟩, ⟨value, keeps _ _ is_⟩, fun k' mem' => once k' (old rfl mem')⟩

/-- A subscription is asked for. -/
theorem Accounted.begins (h : c.Accounted log ended) (numbered : c.Numbered log)
    (keeps : ∀ id outcome, ended id outcome → ended' id outcome)
    (free : ∀ id, ¬ c.Current id type) (connected : c.connected = true)
    (lined : more = [.command c.commands.nextId (.subscribeEvents (wireType type))])
    (current : ∀ id type', c'.Current id type' ↔
      c.Current id type' ∨ id = c.commands.nextId ∧ type' = type)
    (hub : c'.subscriptions.hub = c.subscriptions.hub) : c'.Accounted (log ++ more) ended' := by
  have mem_iff : ∀ {message}, message ∈ log ++ more ↔ message ∈ log ∨
      message = .command c.commands.nextId (.subscribeEvents (wireType type)) := by
    intro message
    rw [lined, List.mem_append, List.mem_singleton]
  -- Nothing new is told to be over.
  have tells : ∀ {k id}, .command k (.unsubscribeEvents id) ∈ log ++ more →
      Outgoing.command k (.unsubscribeEvents id) ∈ log := by
    intro k id mem
    rcases mem_iff.1 mem with mem | e
    · exact mem
    · cases e
  refine ⟨fun id type' h' => ?_, fun id type' h' => ?_, fun _ id w mem => ?_,
    fun id id' w mem mem' lt => ?_, fun k id mem => ?_⟩
  · rcases (current id type').1 h' with old | ⟨rfl, rfl⟩
    · have stands := h.stands id type' old
      exact ⟨mem_iff.2 (.inl stands.asked), fun k mem => stands.kept k (tells mem)⟩
    · -- Nobody can have told the hub of an id that is new.
      refine ⟨mem_iff.2 (.inr rfl), fun k mem => ?_⟩
      obtain ⟨-, ⟨w, asked⟩, -⟩ := h.told k _ (tells mem)
      exact absurd (numbered.lt asked) (Nat.lt_irrefl _)
  · rw [hub] at h'
    exact (h.accepted id type' h').imp fun value => keeps _ _
  -- An earlier subscription that is spent needs nothing more; the new one is current.
  · rcases mem_iff.1 mem with mem | e
    · rcases h.spent connected id w mem with ⟨type', e, is_⟩ | ⟨e, is_⟩ | ⟨k, mem⟩
      · exact .inl ⟨type', e, (current id type').2 (.inl is_)⟩
      · exact .inr (.inl ⟨e, keeps _ _ is_⟩)
      · exact .inr (.inr ⟨k, mem_iff.2 (.inl mem)⟩)
    · cases e
      exact .inl ⟨type, rfl, (current _ _).2 (.inr ⟨rfl, rfl⟩)⟩
  · rcases mem_iff.1 mem with mem | e
    · rcases mem_iff.1 mem' with mem' | e
      · rcases h.shared id id' w mem mem' lt with ⟨e, is_⟩ | ⟨k, le, told⟩
        · exact .inl ⟨e, keeps _ _ is_⟩
        · exact .inr ⟨k, le, mem_iff.2 (.inl told)⟩
      · cases e
        rcases h.spent connected id _ mem with ⟨type', e, is_⟩ | ⟨e, is_⟩ | ⟨k, told⟩
        · rw [← wireType_injective e] at is_
          exact absurd is_ (free id)
        · exact .inl ⟨e, keeps _ _ is_⟩
        · exact .inr ⟨k, numbered.lt told, mem_iff.2 (.inl told)⟩
    · cases e
      rcases mem_iff.1 mem' with mem' | e
      · exact absurd (numbered.lt mem') (Nat.lt_asymm lt)
      · cases e
        exact absurd lt (Nat.lt_irrefl _)
  · obtain ⟨lt, ⟨w, asked⟩, ⟨value, is_⟩, once⟩ := h.told k id (tells mem)
    exact ⟨lt, ⟨w, mem_iff.2 (.inl asked)⟩, ⟨value, keeps _ _ is_⟩,
      fun k' mem' => once k' (tells mem')⟩

/-- The hub is told that a subscription is over. -/
theorem Accounted.ends (h : c.Accounted log ended) (numbered : c.Numbered log)
    (keeps : ∀ id outcome, ended id outcome → ended' id outcome)
    (up : c'.connected = true → c.connected = true)
    (was : c.subscriptions.hub.find? type = some (some id))
    (only : ∀ i, c.Current i type → i = id)
    (lined : more = [.command c.commands.nextId (.unsubscribeEvents id)])
    (current : ∀ id type', c'.Current id type' ↔ c.Current id type' ∧ type' ≠ type)
    (recorded : ∀ id type', c'.subscriptions.hub.find? type' = some (some id) →
      c.subscriptions.hub.find? type' = some (some id)) : c'.Accounted (log ++ more) ended' := by
  have mem_iff : ∀ {message}, message ∈ log ++ more ↔ message ∈ log ∨
      message = .command c.commands.nextId (.unsubscribeEvents id) := by
    intro message
    rw [lined, List.mem_append, List.mem_singleton]
  have asks : ∀ {id w}, .command id (.subscribeEvents w) ∈ log ++ more →
      Outgoing.command id (.subscribeEvents w) ∈ log := by
    intro id w mem
    rcases mem_iff.1 mem with mem | e
    · exact mem
    · cases e
  have mine := h.stands id type (.inr was)
  refine ⟨fun i type' h' => ?_, fun i type' h' => ?_, fun up' i w mem => ?_,
    fun i i' w mem mem' lt => ?_, fun k i mem => ?_⟩
  · obtain ⟨old, ne⟩ := (current i type').1 h'
    have stands := h.stands i type' old
    refine stands.append fun k mem => ?_
    -- Another type has another id.
    rw [lined, List.mem_singleton] at mem
    cases mem
    have same := numbered.unique stands.asked mine.asked
    injection same with same
    exact ne (wireType_injective same)
  · exact (h.accepted i type' (recorded i type' h')).imp fun value => keeps _ _
  · rcases h.spent (up up') i w (asks mem) with ⟨type', e, is_⟩ | ⟨e, is_⟩ | ⟨k, told⟩
    · by_cases same : type' = type
      · subst same
        obtain rfl := only i is_
        exact .inr (.inr ⟨_, mem_iff.2 (.inr rfl)⟩)
      · exact .inl ⟨type', e, (current i type').2 ⟨is_, same⟩⟩
    · exact .inr (.inl ⟨e, keeps _ _ is_⟩)
    · exact .inr (.inr ⟨k, mem_iff.2 (.inl told)⟩)
  · rcases h.shared i i' w (asks mem) (asks mem') lt with ⟨e, is_⟩ | ⟨k, le, told⟩
    · exact .inl ⟨e, keeps _ _ is_⟩
    · exact .inr ⟨k, le, mem_iff.2 (.inl told)⟩
  · rcases mem_iff.1 mem with mem | e
    · obtain ⟨lt, ⟨w, asked⟩, ⟨value, is_⟩, once⟩ := h.told k i mem
      refine ⟨lt, ⟨w, mem_iff.2 (.inl asked)⟩, ⟨value, keeps _ _ is_⟩, fun k' mem' => ?_⟩
      rcases mem_iff.1 mem' with mem' | e
      · exact once k' mem'
      · cases e
        exact absurd mem (mine.kept k)
    · cases e
      obtain ⟨value, is_⟩ := h.accepted id type was
      refine ⟨numbered.lt mine.asked, ⟨_, mem_iff.2 (.inl mine.asked)⟩, ⟨value, keeps _ _ is_⟩,
        fun k' mem' => ?_⟩
      rcases mem_iff.1 mem' with mem' | e
      · exact absurd mem' (mine.kept k')
      · cases e
        rfl

theorem Accounted.act (h : c.Accounted log ended) (numbered : c.Numbered log)
    (step : CurrentStep c a (c.act a))
    (keeps : ∀ id outcome, ended id outcome → ended' id outcome)
    (parked : ∀ id outcome, (id, outcome) ∈ c.outcomes → ended' id outcome) :
    (c.act a).Accounted (log ++ c.lined a) ended' := by
  have up := (c.act_step a).connected
  cases step with
  | quiet lined current gone recorded => exact h.quiet keeps parked up lined current gone recorded
  | begins type free connected lined current hub =>
    exact h.begins numbered keeps free connected lined current hub
  | ends type id was only lined current recorded =>
    exact h.ends numbered keeps up was only lined current recorded

end Steps

theorem ended_concat {outcome : ClientResult Json} {actions : List Action}
    (h : Ended id outcome c actions) (a : Action) : Ended id outcome c (actions ++ [a]) :=
  (sometime_concat _ _ _ _).2 (.inl h)

/-- An outcome that is parked is that of a command that ended. -/
theorem ended_of_parked {outcome : ClientResult Json} (none_ : c.outcomes = [])
    (actions : List Action) (parked : (id, outcome) ∈ (c.actAll actions).outcomes) :
    Ended id outcome c actions := by
  cases actions using List.reverseRecOn with
  | nil =>
    rw [actAll_nil, none_] at parked
    cases parked
  | append_singleton rest a =>
    rw [actAll_append] at parked
    exact (sometime_concat _ _ _ _).2 (.inr parked)

/-- What was lined up in a run without commands by hand. -/
theorem accounted_actAll (capacity : Nat) (broken : Option String) {actions : List Action}
    (calls : ∀ a ∈ actions, a.isByHand = false) :
    ((start capacity broken).actAll actions).Accounted (linedUp (start capacity broken) actions)
        (fun id outcome => Ended id outcome (start capacity broken) actions) ∧
      ((start capacity broken).actAll actions).ByCalls := by
  induction actions using List.reverseRecOn with
  | nil => exact ⟨accounted_start capacity broken _, nofun⟩
  | append_singleton rest a ih =>
    obtain ⟨before, last⟩ := List.forall_mem_append.1 calls
    obtain ⟨accounted, byCalls⟩ := ih before
    have reachable : ((start capacity broken).actAll rest).Reachable := ⟨capacity, broken, rest, rfl⟩
    rw [linedUp_concat, actAll_append]
    refine ⟨?_, byCalls.act (last a List.mem_cons_self)⟩
    refine accounted.act (numbered_actAll capacity broken rest) (reachable.current byCalls a)
      (fun id outcome h => ended_concat h a) fun id outcome parked => ?_
    exact ended_concat (ended_of_parked rfl rest parked) a

/-- Of two subscriptions for a type the first one was refused, or a caller began in
between to tell the hub that it is over. -/
theorem Accounted.between {ended : Nat → ClientResult Json → Prop} {id' : Nat} {w : Option String}
    (h : c.Accounted log ended) (mem : .command id (.subscribeEvents w) ∈ log)
    (mem' : .command id' (.subscribeEvents w) ∈ log) (lt : id < id') :
    (∃ e, ended id (.error e)) ∨
      ∃ k, id < k ∧ k < id' ∧ .command k (.unsubscribeEvents id) ∈ log := by
  refine (h.shared id id' w mem mem' lt).imp_right fun ⟨k, before, told⟩ => ?_
  exact ⟨k, (h.told k id told).1, before, told⟩

end Connection

end HubAutomation
