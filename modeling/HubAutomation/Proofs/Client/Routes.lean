import HubAutomation.Proofs.Client.LockOrder
import HubAutomation.Proofs.Client.Streams

/-!
# Routes of subscriptions

While a connection is up, the hub's events find the stream that they were asked
for: a subscription has a route from the moment at which it gets its id until
it is refused or taken out, and a stream has one route at most.

- `Connection.Subscribing`: a caller has a subscription under way.
- `Connection.Routed`: routes, recorded subscriptions and those under way.
- `Connection.Reachable.routed`: they belong together at every moment.
- `Connection.Routed.unique`: one route for each stream.
-/

namespace HubAutomation

namespace Subscriptions

variable {s : Subscriptions} {type : String} {id : Nat}

/-! ### Where events go -/

theorem target_of_mem (keys : (s.routes.map Prod.fst).Nodup) (h : (id, type) ∈ s.routes)
    (event : Event Json) : s.target (some id) event = type := by
  have found : (s.routes.find? fun r => r.1 = id) = some (id, type) := by
    cases hf : s.routes.find? fun r => r.1 = id with
    | none => simpa using List.find?_eq_none.1 hf _ h
    | some r =>
      have hr : r.1 = id := by simpa using List.find?_some hf
      rw [List.inj_on_of_nodup_map keys (List.mem_of_find?_eq_some hf) h hr]
  simp only [target, Option.bind_some, found]

theorem target_of_unrouted (h : ∀ type, (id, type) ∉ s.routes) (event : Event Json) :
    s.target (some id) event = event.type := by
  have absent : (s.routes.find? fun r => r.1 = id) = none := by
    refine List.find?_eq_none.2 fun r hr => ?_
    simp only [decide_eq_true_eq]
    exact fun e => h r.2 (e ▸ hr)
  simp only [target, Option.bind_some, absent]

@[simp] theorem routes_stream (s : Subscriptions) (type : String) :
    (s.stream type).1.routes = s.routes := by
  show (s.channelFor type).1.routes = _
  unfold channelFor
  split <;> rfl

@[simp] theorem hub_stream (s : Subscriptions) (type : String) :
    (s.stream type).1.hub = s.hub := by
  show (s.channelFor type).1.hub = _
  unfold channelFor
  split <;> rfl

@[simp] theorem routes_dispatch (s : Subscriptions) (id : Option Nat) (event : Event Json) :
    (s.dispatch id event).routes = s.routes := by
  unfold dispatch
  split <;> rfl

@[simp] theorem hub_dispatch (s : Subscriptions) (id : Option Nat) (event : Event Json) :
    (s.dispatch id event).hub = s.hub := by
  unfold dispatch
  split <;> rfl

theorem mem_route {r : Nat × String} :
    r ∈ (s.route id type).routes ↔ r ∈ s.routes ∧ r.1 ≠ id ∨ r = (id, type) := by
  simp [route]

theorem mem_unroute {r : Nat × String} :
    r ∈ (s.unroute id).routes ↔ r ∈ s.routes ∧ r.1 ≠ id := by
  simp [unroute]

theorem isSubscribed_eq_false : s.isSubscribed type = false ↔ s.hub.find? type = none := by
  rw [isSubscribed, Dict.mem, Option.isSome_eq_false_iff, Option.isNone_iff_eq_none]

/-- What an answered subscription leaves of the routes: all, or all but its own. -/
theorem mem_answered {r : Receiver} {outcome : ClientResult Json} {p : Nat × String} :
    p ∈ (s.answered id type r outcome).routes ↔
      p ∈ s.routes ∧ (p.1 = id → ∃ value, outcome = .ok value) := by
  cases outcome with
  | ok value => simp [answered]
  | error e =>
    have same : (s.answered id type r (.error e)).routes = (s.unroute id).routes := by
      unfold answered
      dsimp only
      split <;> rfl
    rw [same, mem_unroute]
    refine and_congr_right fun _ => ⟨fun ne e => absurd e ne, fun h e => ?_⟩
    obtain ⟨value, h⟩ := h e
    cases h

/-- What an answered subscription leaves recorded. -/
theorem hub_answered (s : Subscriptions) (id : Nat) (type : String) (r : Receiver)
    (outcome : ClientResult Json) :
    (s.answered id type r outcome).hub =
      match outcome with
      | .ok _ => s.hub.insert type (some id)
      | .error e => if e.isAlreadySubscribed then s.hub.insert type none else s.hub := by
  cases outcome with
  | ok value => rfl
  | error e =>
    unfold answered
    dsimp only
    split <;> rfl

/-- What is taken out is recorded no longer, and all else is. -/
theorem recorded_take {s' : Subscriptions} {handle : Option Nat} {type' : String}
    (take : s.take type = some (s', handle)) :
    s'.hub.find? type' = some (some id) ↔ s.hub.find? type' = some (some id) ∧ type' ≠ type := by
  have look : s'.hub.find? type' = if type' = type then none else s.hub.find? type' := by
    rw [(take_eq_some take).2]
    exact Dict.find?_erase _ _ _
  rw [look]
  split <;> simp [*]

/-- What was not recorded is recorded by an answer if the hub accepts it. -/
theorem recorded_answered {i : Nat} {type' : String} {r : Receiver} {outcome : ClientResult Json}
    (unrecorded : s.hub.find? type = none) :
    (s.answered id type r outcome).hub.find? type' = some (some i) ↔
      s.hub.find? type' = some (some i) ∨
        type' = type ∧ i = id ∧ ∃ value, outcome = .ok value := by
  rw [hub_answered]
  by_cases here : type' = type
  · subst here
    rw [unrecorded]
    cases outcome with
    | ok value =>
      rw [Dict.find?_insert_self]
      simp [eq_comm]
    | error e =>
      dsimp only
      split
      · rw [Dict.find?_insert_self]
        simp
      · rw [unrecorded]
        simp
  · cases outcome with
    | ok value =>
      rw [Dict.find?_insert_other _ _ here]
      simp [here]
    | error e =>
      dsimp only
      split
      · rw [Dict.find?_insert_other _ _ here]
        simp
      · simp

end Subscriptions

namespace Connection

variable {c c' : Connection} {n m id : Nat} {type : String} {r : Receiver}

/-! ### Subscriptions under way -/

/-- A caller has a subscription under way. -/
def Subscribing (c : Connection) (m id : Nat) (type : String) (r : Receiver) : Prop :=
  ∃ s, c.callers[m]? = some s ∧ s.subscribing? = some (id, type, r)

theorem InLine.holds_of_subscribing (h : c.InLine) (w : c.Subscribing m id type r) :
    c.lock.holder = some m :=
  let ⟨s, at_, asked⟩ := w
  h.holds m s _ at_ asked

theorem subscribing_set {s s' : CallerState} (at_ : c.callers[n]? = some s)
    (callers : c'.callers = c.callers.set n s') :
    c'.Subscribing m id type r ↔
      if m = n then s'.subscribing? = some (id, type, r) else c.Subscribing m id type r := by
  rw [Subscribing, callers, getElem?_set_caller at_]
  split
  · simp
  · rfl

/-- A caller whose subscription stays as it is changes none that is under way. -/
theorem subscribing_congr {s s' : CallerState} (at_ : c.callers[n]? = some s)
    (callers : c'.callers = c.callers.set n s') (same : s'.subscribing? = s.subscribing?) (m id : Nat)
    (type : String) (r : Receiver) :
    c'.Subscribing m id type r ↔ c.Subscribing m id type r := by
  rw [subscribing_set at_ callers]
  split
  · rw [same, ‹m = n›, Subscribing, at_]
    simp
  · rfl

/-- One subscription is under way at a time. -/
theorem InLine.subscribing_unique {m' id' : Nat} {type' : String} {r' : Receiver} (h : c.InLine)
    (w : c.Subscribing m id type r) (w' : c.Subscribing m' id' type' r') :
    m = m' ∧ id = id' ∧ type = type' := by
  have same := h.holds_of_subscribing w
  rw [h.holds_of_subscribing w'] at same
  obtain rfl := Option.some.inj same
  obtain ⟨s, at_, asked⟩ := w
  obtain ⟨s', at', asked'⟩ := w'
  cases at_.symm.trans at'
  cases asked.symm.trans asked'
  exact ⟨rfl, rfl, rfl⟩

/-- Nobody subscribes while the holder of the lock does something else. -/
theorem InLine.not_subscribing (h : c.InLine) {s : CallerState} (at_ : c.callers[n]? = some s)
    (holds : c.lock.holder = some n) (none_ : s.subscribing? = none) :
    ¬ c.Subscribing m id type r := by
  intro w
  have same := h.holds_of_subscribing w
  rw [holds] at same
  obtain rfl := Option.some.inj same
  obtain ⟨s', at', asked⟩ := w
  rw [at_] at at'
  cases at'
  rw [none_] at asked
  cases asked

/-! ### The invariant -/

/-- Routes, recorded subscriptions and those under way belong together. -/
structure Routed (c : Connection) : Prop where
  keys : (c.subscriptions.routes.map Prod.fst).Nodup
  given : ∀ id type, (id, type) ∈ c.subscriptions.routes → id < c.commands.nextId
  /-- What is under way is not recorded yet. -/
  fresh : ∀ m id type r, c.Subscribing m id type r → c.subscriptions.hub.find? type = none
  recorded : c.isUp = true → ∀ type id, c.subscriptions.hub.find? type = some (some id) →
    (id, type) ∈ c.subscriptions.routes
  asked : c.isUp = true → ∀ m id type r, c.Subscribing m id type r →
    (id, type) ∈ c.subscriptions.routes
  /-- A route belongs to a subscription. -/
  origin : c.isUp = true → ∀ id type, (id, type) ∈ c.subscriptions.routes →
    c.subscriptions.hub.find? type = some (some id) ∨ ∃ m r, c.Subscribing m id type r

theorem routed_start (capacity : Nat) (broken : Option String) :
    (start capacity broken).Routed where
  keys := .nil
  given := nofun
  fresh := nofun
  recorded := nofun
  asked := nofun
  origin := nofun

theorem LeftWith.routes {s : Subscriptions} (left : LeftWith s c') :
    (∀ p ∈ c'.subscriptions.routes, p ∈ s.routes) ∧
      ((s.routes.map Prod.fst).Nodup → (c'.subscriptions.routes.map Prod.fst).Nodup) ∧
      c'.subscriptions.hub = s.hub := by
  rcases left with left | ⟨left, -⟩
  · rw [left]
    exact ⟨fun _ h => h, fun h => h, rfl⟩
  · rw [left]
    exact ⟨nofun, fun _ => .nil, rfl⟩

/-- A step that leaves subscriptions and those under way alone. -/
theorem Routed.of_same {s : Subscriptions} (h : c.Routed) (up : c'.isUp = true → c.isUp = true)
    (left : LeftWith s c') (routes : s.routes = c.subscriptions.routes)
    (hub : s.hub = c.subscriptions.hub)
    (under : ∀ m id type r, c'.Subscribing m id type r ↔ c.Subscribing m id type r)
    (nextId : c.commands.nextId ≤ c'.commands.nextId) : c'.Routed := by
  obtain ⟨sub, nodup, hub'⟩ := left.routes
  rw [routes] at sub nodup
  rw [hub] at hub'
  refine ⟨nodup h.keys, fun id type hm => ?_, fun m id type r w => ?_, fun up' => ?_, fun up' => ?_,
    fun up' => ?_⟩
  · exact Nat.lt_of_lt_of_le (h.given id type (sub _ hm)) nextId
  · rw [hub']
    exact h.fresh m id type r ((under _ _ _ _).1 w)
  · rw [hub', left.of_up up', routes]
    exact h.recorded (up up')
  · intro m id type r w
    rw [left.of_up up', routes]
    exact h.asked (up up') m id type r ((under _ _ _ _).1 w)
  · intro id type hm
    rw [left.of_up up', routes] at hm
    rw [hub']
    exact (h.origin (up up') id type hm).imp_right fun ⟨m, r, w⟩ => ⟨m, r, (under _ _ _ _).2 w⟩

/-- A caller subscribes. -/
theorem Routed.subscribe (h : c.Routed) (line : c.InLine)
    (at_ : c.callers[n]? = some (.locking (.listen type r))) (holds : c.lock.holder = some n)
    (unrecorded : c.subscriptions.isSubscribed type = false) (connected : c.connected = true)
    (callers : c'.callers = c.callers.set n (.sending c.commands.nextId
      (.subscribeEvents (wireType type)) (.subscribe type r)))
    (commands : c'.commands = c.commands.register)
    (subs : c'.subscriptions = c.subscriptions.route c.commands.nextId type) : c'.Routed := by
  have up : c.isUp = true := isUp_iff.2 ⟨connected, isHeld_of_caller at_ rfl⟩
  -- The caller holds the lock, so no other subscription is under way.
  have nobody : ∀ m id type r, ¬ c.Subscribing m id type r :=
    fun m id type r => line.not_subscribing at_ holds rfl
  have under : ∀ m i type' r', c'.Subscribing m i type' r' →
      m = n ∧ i = c.commands.nextId ∧ type' = type := by
    intro m i type' r' w
    rw [subscribing_set at_ callers] at w
    split at w
    · cases w
      exact ⟨‹_›, rfl, rfl⟩
    · exact absurd w (nobody _ _ _ _)
  -- The id is new, so the route replaces none.
  have routes : ∀ p, p ∈ c'.subscriptions.routes ↔
      p ∈ c.subscriptions.routes ∨ p = (c.commands.nextId, type) := by
    intro p
    rw [subs, Subscriptions.mem_route]
    refine or_congr_left (and_iff_left_of_imp fun hp => ?_)
    exact Nat.ne_of_lt (h.given p.1 p.2 hp)
  have hub : c'.subscriptions.hub = c.subscriptions.hub := by rw [subs]; rfl
  have nextId : c'.commands.nextId = c.commands.nextId + 1 := by rw [commands]; rfl
  refine ⟨?_, fun id type' hm => ?_, fun m id type' r' w => ?_, fun _ type' id found => ?_,
    fun _ m id type' r' w => ?_, fun _ id type' hm => ?_⟩
  · rw [subs]
    show ((List.filter _ _ ++ [_]).map Prod.fst).Nodup
    rw [List.map_append, List.nodup_append]
    refine ⟨h.keys.sublist (List.filter_sublist.map _), List.nodup_singleton _, ?_⟩
    intro a ha b hb e
    obtain ⟨p, hp, rfl⟩ := List.mem_map.1 ha
    rw [List.mem_singleton.1 hb] at e
    simp [e] at hp
  · rw [nextId]
    rcases (routes _).1 hm with hm | e
    · exact Nat.lt_succ_of_lt (h.given id type' hm)
    · cases e
      exact Nat.lt_succ_self _
  · obtain ⟨-, -, rfl⟩ := under _ _ _ _ w
    rw [hub]
    exact Subscriptions.isSubscribed_eq_false.1 unrecorded
  · rw [hub] at found
    exact (routes _).2 (.inl (h.recorded up type' id found))
  · obtain ⟨-, rfl, rfl⟩ := under _ _ _ _ w
    exact (routes _).2 (.inr rfl)
  · rw [hub]
    rcases (routes _).1 hm with hm | e
    · exact (h.origin up id type' hm).imp_right fun ⟨m, r, w⟩ => absurd w (nobody _ _ _ _)
    · cases e
      refine .inr ⟨n, r, ?_⟩
      rw [subscribing_set at_ callers, if_pos rfl]
      rfl

/-- A subscription is taken out. -/
theorem Routed.take {subscriptions : Subscriptions} {handle : Option Nat} {s' : CallerState}
    (h : c.Routed) (line : c.InLine) (up : c'.isUp = true → c.isUp = true)
    (at_ : c.callers[n]? = some (.locking (.unlisten type))) (holds : c.lock.holder = some n)
    (take : c.subscriptions.take type = some (subscriptions, handle))
    (callers : c'.callers = c.callers.set n s') (after : s'.inLine = false)
    (left : LeftWith subscriptions c') (nextId : c.commands.nextId ≤ c'.commands.nextId) :
    c'.Routed := by
  obtain ⟨found, rfl⟩ := Subscriptions.take_eq_some take
  obtain ⟨sub, nodup, hub⟩ := left.routes
  -- The lock is its caller's, before and after, so nothing is under way.
  have nobody : ∀ m id type r, ¬ c'.Subscribing m id type r := by
    intro m id type r w
    rw [subscribing_set at_ callers] at w
    split at w
    · exact not_subscribing_of_not_inLine after w
    · exact line.not_subscribing at_ holds rfl w
  have routes : ∀ p, p ∈ c.subscriptions.routes.filter (fun r => r.2 ≠ type) ↔
      p ∈ c.subscriptions.routes ∧ p.2 ≠ type := fun p => by simp
  have recorded : ∀ id type', c'.subscriptions.hub.find? type' = some (some id) ↔
      c.subscriptions.hub.find? type' = some (some id) ∧ type' ≠ type := by
    intro id type'
    rw [hub]
    exact Subscriptions.recorded_take take
  refine ⟨nodup (h.keys.sublist (List.filter_sublist.map _)), fun id type' hm => ?_,
    fun m id type' r w => absurd w (nobody _ _ _ _), fun up' type' id found => ?_,
    fun _ m id type' r w => absurd w (nobody _ _ _ _), fun up' id type' hm => ?_⟩
  · exact Nat.lt_of_lt_of_le (h.given id type' ((routes _).1 (sub _ hm)).1) nextId
  · obtain ⟨old, other⟩ := (recorded id type').1 found
    rw [left.of_up up']
    exact (routes _).2 ⟨h.recorded (up up') type' id old, other⟩
  · rw [left.of_up up'] at hm
    obtain ⟨hm, other⟩ := (routes _).1 hm
    refine (h.origin (up up') id type' hm).imp (fun old => (recorded id type').2 ⟨old, other⟩)
      fun ⟨m, r, w⟩ => ?_
    exact absurd w (line.not_subscribing at_ holds rfl)

/-- A subscription is answered. -/
theorem Routed.answered {outcome : ClientResult Json} {result : ClientResult CallValue}
    (h : c.Routed) (line : c.InLine) (up : c'.isUp = true → c.isUp = true)
    (at_ : c.callers[n]? = some (.awaiting id (.subscribe type r)))
    (callers : c'.callers = c.callers.set n (.done result))
    (left : LeftWith (c.subscriptions.answered id type r outcome) c')
    (nextId : c.commands.nextId ≤ c'.commands.nextId) : c'.Routed := by
  obtain ⟨sub, nodup, hub⟩ := left.routes
  have mine : c.Subscribing n id type r := ⟨_, at_, rfl⟩
  have nobody : ∀ m i type' r', ¬ c'.Subscribing m i type' r' := by
    intro m i type' r' w
    rw [subscribing_set at_ callers] at w
    split at w
    · cases w
    · exact ‹m ≠ n› (line.subscribing_unique w mine).1
  have recorded : ∀ type' i, c'.subscriptions.hub.find? type' = some (some i) ↔
      c.subscriptions.hub.find? type' = some (some i) ∨
        type' = type ∧ i = id ∧ ∃ value, outcome = .ok value := by
    intro type' i
    rw [hub]
    exact Subscriptions.recorded_answered (h.fresh n id type r mine)
  refine ⟨nodup ?_, fun i type' hm => ?_, fun m i type' r w => absurd w (nobody _ _ _ _),
    fun up' type' i found => ?_, fun _ m i type' r w => absurd w (nobody _ _ _ _),
    fun up' i type' hm => ?_⟩
  · cases outcome with
    | ok value => exact h.keys
    | error e =>
      have same : (c.subscriptions.answered id type r (.error e)).routes =
          (c.subscriptions.unroute id).routes := by
        unfold Subscriptions.answered
        dsimp only
        split <;> rfl
      rw [same]
      exact h.keys.sublist (List.filter_sublist.map _)
  · exact Nat.lt_of_lt_of_le (h.given i type' (Subscriptions.mem_answered.1 (sub _ hm)).1) nextId
  · rw [left.of_up up', Subscriptions.mem_answered]
    -- What was recorded before has another type, so it has another id.
    rcases (recorded type' i).1 found with old | ⟨rfl, rfl, ok⟩
    · have mem := h.recorded (up up') type' i old
      refine ⟨mem, fun hi => ?_⟩
      have same := List.inj_on_of_nodup_map h.keys mem (h.asked (up up') n id type r mine) hi
      obtain rfl : type' = type := congrArg Prod.snd same
      exact absurd (old.symm.trans (h.fresh n id type' r mine)) nofun
    · exact ⟨h.asked (up up') n i type' r mine, fun _ => ok⟩
  · rw [left.of_up up', Subscriptions.mem_answered] at hm
    rw [recorded]
    refine .inl ?_
    rcases h.origin (up up') i type' hm.1 with found | ⟨m, r', w⟩
    · exact .inl found
    · obtain ⟨-, rfl, rfl⟩ := line.subscribing_unique w mine
      exact .inr ⟨rfl, rfl, hm.2 rfl⟩

theorem Routed.turn (h : c.Routed) (line : c.InLine) (writing : c.Writing)
    (up : c'.isUp = true → c.isUp = true)
    (nextId : c.commands.nextId ≤ c'.commands.nextId) (t : ListenerTurn c n c') : c'.Routed := by
  cases t with
  | aside s s' at_ open_ callers before after asks gets lock left =>
    refine h.of_same up left rfl rfl (subscribing_congr at_ callers ?_) nextId
    rw [Option.eq_none_iff_forall_ne_some.2 fun p => not_subscribing_of_not_inLine before,
      Option.eq_none_iff_forall_ne_some.2 fun p => not_subscribing_of_not_inLine after]
  | listen eventType at_ callers lock subs =>
    exact h.of_same up (.inl subs) (Subscriptions.routes_stream _ _) (Subscriptions.hub_stream _ _)
      (subscribing_congr at_ callers rfl) nextId
  | unlisten eventType at_ callers lock subs =>
    exact h.of_same up (.inl subs) rfl rfl (subscribing_congr at_ callers rfl) nextId
  | join eventType receiver at_ holds recorded callers lock left =>
    exact h.of_same up left rfl rfl (subscribing_congr at_ callers rfl) nextId
  | subscribe eventType receiver at_ holds unrecorded connected callers commands lock subs =>
    exact h.subscribe line at_ holds unrecorded connected callers commands subs
  | lost s eventType receiver reason at_ asked down callers lock left =>
    -- What is lost has a route left over, but on no connection that is up.
    have notUp : ¬ c'.isUp = true := by
      intro up'
      rw [writing.down_of_lost down] at up
      exact Bool.false_ne_true (up up')
    obtain ⟨sub, nodup, hub⟩ := left.routes
    refine ⟨nodup h.keys, fun id type hm => ?_, fun m id type r w => ?_,
      fun up' => absurd up' notUp, fun up' => absurd up' notUp, fun up' => absurd up' notUp⟩
    · exact Nat.lt_of_lt_of_le (h.given id type (sub _ hm)) nextId
    · rw [subscribing_set at_ callers] at w
      split at w
      · cases w
      · rw [hub]
        exact h.fresh m id type r w
  | untaken eventType at_ holds unrecorded callers lock left =>
    exact h.of_same up left rfl rfl (subscribing_congr at_ callers rfl) nextId
  | taken eventType subscriptions handle s' at_ holds take callers after gets lock left =>
    exact h.take line up at_ holds take callers after left nextId
  | queued id command eventType receiver at_ callers lock subs =>
    exact h.of_same up (.inl subs) rfl rfl (subscribing_congr at_ callers rfl) nextId
  | answered id eventType receiver outcome at_ parked callers lock left =>
    exact h.answered line up at_ callers left nextId

theorem Routed.event {a : Action} (h : c.Routed) (up : c'.isUp = true → c.isUp = true)
    (nextId : c.commands.nextId ≤ c'.commands.nextId) (e : ListenerEvent c a c') : c'.Routed := by
  cases e with
  | quiet silent callers lock left =>
    obtain ⟨new, callers, ready⟩ := callers
    refine h.of_same up left rfl rfl (fun m id type r => ?_) nextId
    refine exists_congr fun s => and_congr_left fun asked => ?_
    exact caller_append callers ready (fun request e => by rw [e] at asked; cases asked) m
  | event frame reading brings callers lock subs =>
    refine h.of_same up (.inl subs) (Subscriptions.routes_dispatch _ _ _)
      (Subscriptions.hub_dispatch _ _ _) (fun m id type r => ?_) nextId
    rw [Subscribing, callers]
    rfl

/-- Routes, recorded subscriptions and those under way belong together at every
moment of every run. -/
theorem Reachable.routed (h : c.Reachable) : c.Routed := by
  refine h.induction routed_start fun c a reachable h => ?_
  have up := (c.act_step a).isUp
  rcases (c.act_step a).listeners with ⟨n, -, t⟩ | e
  · exact h.turn reachable.inLine reachable.writing up (c.nextId_le_act a) t
  · exact h.event up (c.nextId_le_act a) e

/-- A connection that is not up has no routes. -/
theorem Reachable.unrouted (h : c.Reachable) (down : c.isUp = false) :
    c.subscriptions.routes = [] := by
  refine h.induction (P := fun c => c.isUp = false → c.subscriptions.routes = [])
    (fun _ _ _ => rfl) (fun c a _ h down => ?_) down
  cases up : c.isUp with
  | true =>
    rcases (c.act_step a).up_or_ended up with up' | ended
    · rw [down] at up'
      cases up'
    · exact ended.routes
  | false =>
    have none_ := h up
    cases (c.act_step a).subscriptions with
    | event frame reading brings subs => rw [subs, Subscriptions.routes_dispatch, none_]
    | change subscriptions silent change left =>
      refine List.eq_nil_iff_forall_not_mem.2 fun p hp => ?_
      have hp := left.routes.1 p hp
      -- Only a connection that is up gets routes.
      have old : p ∈ c.subscriptions.routes := by
        cases change with
        | same => exact hp
        | stream eventType => rwa [Subscriptions.routes_stream] at hp
        | route eventType up' =>
          rw [up] at up'
          cases up'
        | drop receiver => exact hp
        | take eventType handle takes take =>
          rw [(Subscriptions.take_eq_some take).2] at hp
          exact List.mem_of_mem_filter hp
        | answered n id eventType receiver outcome at_ parked =>
          exact (Subscriptions.mem_answered.1 hp).1
      rw [none_] at old
      exact List.not_mem_nil old

/-- A stream has one route at most. -/
theorem Routed.unique {i : Nat} (h : c.Routed) (line : c.InLine) (up : c.isUp = true)
    (hm : (id, type) ∈ c.subscriptions.routes) (hm' : (i, type) ∈ c.subscriptions.routes) :
    id = i := by
  rcases h.origin up id type hm with found | ⟨m, r, w⟩ <;>
    rcases h.origin up i type hm' with found' | ⟨m', r', w'⟩
  · rw [found] at found'
    cases found'
    rfl
  · rw [h.fresh m' i type r' w'] at found
    cases found
  · rw [h.fresh m id type r w] at found'
    cases found'
  · exact (line.subscribing_unique w w').2.1

end Connection

end HubAutomation
