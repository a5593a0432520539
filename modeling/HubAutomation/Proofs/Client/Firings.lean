import HubAutomation.Proofs.Client.Correlation
import HubAutomation.Proofs.Client.LiveListeners

/-!
# Fired events

The hub sends one frame of a fired event for every subscription that the event
belongs to. Frames go to the stream of their subscription; a stray frame, whose
subscription has no route any more, goes to the stream of its event's own type.
So a listener hears a fired event twice where a stray frame of it reaches a
stream that the event reaches otherwise as well.

- `Connection.FairHub`: what a hub sends of the events that were fired.
- `Connection.firings`: the fired events that a run brings to a channel.
- `Connection.routedTo`, `Connection.strayTo`: the two ways to a channel.
- `Connection.Tied`: the one route to a stream while it lasts.
- `Connection.heard_once_iff`: the events that a listener hears once.
-/

namespace HubAutomation

namespace Connection

variable {c : Connection} {k id f : Nat} {type : String} {a : Action}

/-! ### What the hub sends -/

/-- The subscription that an event frame names, if an action brings one. -/
def Action.tag? (a : Action) : Option (Option Nat) :=
  match a.frame? with
  | some (.event frame) => some frame.id
  | _ => none

/-- Whether an action brings a refusal of the command with an id. -/
def Action.refuses (a : Action) (id : Nat) : Bool :=
  match a.outcomeFor id with
  | some (.error _) => true
  | _ => false

/-- What a hub sends of the events that were fired. Actions that bring an event
frame stand with the number of the firing: there is one frame of a firing for
each subscription, and none for subscriptions that the hub refuses. -/
structure FairHub (moves : List (Nat × Action)) : Prop where
  once : moves.Pairwise fun p q => p.1 = q.1 → p.2.tag?.isSome = true → p.2.tag? ≠ q.2.tag?
  accepted : ∀ p ∈ moves, ∀ q ∈ moves, p.2.tag?.join.any q.2.refuses = false

instance (moves : List (Nat × Action)) : Decidable (FairHub moves) :=
  decidable_of_iff
    ((moves.Pairwise fun p q => p.1 = q.1 → p.2.tag?.isSome = true → p.2.tag? ≠ q.2.tag?) ∧
      ∀ p ∈ moves, ∀ q ∈ moves, p.2.tag?.join.any q.2.refuses = false)
    ⟨fun ⟨once, accepted⟩ => ⟨once, accepted⟩, fun ⟨once, accepted⟩ => ⟨once, accepted⟩⟩

/-! ### Ways to a channel -/

/-- The fired events that a run brings to a channel. -/
def firings (k : Nat) : Connection → List (Nat × Action) → List (Nat × Event Json)
  | _, [] => []
  | c, (i, a) :: rest =>
    (delivery k c a).map (fun frame => (i, frame.event)) ++ firings k (c.act a) rest

/-- The firings of which an action says something. -/
def labels (P : Connection → Action → Bool) : Connection → List (Nat × Action) → List Nat
  | _, [] => []
  | c, (i, a) :: rest => (if P c a then [i] else []) ++ labels P (c.act a) rest

/-- An action brings an event to a channel by the route of its subscription. -/
def routedTo (k : Nat) (c : Connection) (a : Action) : Bool :=
  match a.frame? with
  | some (.event frame) =>
    c.reading && c.subscriptions.routes.any fun r =>
      frame.id = some r.1 && c.subscriptions.streams.find? r.2 = some k
  | _ => false

/-- An action brings an event to a channel by the event's own type, as its
subscription has no route. -/
def strayTo (k : Nat) (c : Connection) (a : Action) : Bool :=
  match a.frame? with
  | some (.event frame) =>
    c.reading && (c.subscriptions.routes.all fun r => frame.id ≠ some r.1) &&
      c.subscriptions.streams.find? frame.event.type = some k
  | _ => false

/-- The events that were fired are those that are delivered. -/
theorem map_snd_firings (k : Nat) (c : Connection) (moves : List (Nat × Action)) :
    (firings k c moves).map Prod.snd =
      (delivered k c (moves.map Prod.snd)).map EventFrame.event := by
  induction moves generalizing c with
  | nil => rfl
  | cons p rest ih =>
    show ((delivery k c p.2).map _ ++ firings k (c.act p.2) rest).map Prod.snd =
      (delivery k c p.2 ++ delivered k (c.act p.2) (rest.map Prod.snd)).map EventFrame.event
    rw [List.map_append, List.map_append, ih, List.map_map]
    rfl

theorem routedTo_of_frame {frame : EventFrame} (brings : a.frame? = some (.event frame)) :
    routedTo k c a = true ↔ c.reading = true ∧ ∃ id type, frame.id = some id ∧
      (id, type) ∈ c.subscriptions.routes ∧ c.subscriptions.streams.find? type = some k := by
  rw [routedTo, brings]
  simp only [Bool.and_eq_true, List.any_eq_true, decide_eq_true_eq]
  refine and_congr_right fun _ => ⟨?_, ?_⟩
  · rintro ⟨⟨id, type⟩, mem, tag, found⟩
    exact ⟨id, type, tag, mem, found⟩
  · rintro ⟨id, type, tag, mem, found⟩
    exact ⟨⟨id, type⟩, mem, tag, found⟩

theorem strayTo_of_frame {frame : EventFrame} (brings : a.frame? = some (.event frame)) :
    strayTo k c a = true ↔ c.reading = true ∧
      (∀ id type, frame.id = some id → (id, type) ∉ c.subscriptions.routes) ∧
      c.subscriptions.streams.find? frame.event.type = some k := by
  rw [strayTo, brings]
  simp only [Bool.and_eq_true, List.all_eq_true, decide_eq_true_eq, and_assoc]
  refine and_congr_right fun _ => and_congr_left fun _ => ⟨?_, ?_⟩
  · exact fun h id type tag mem => h _ mem tag
  · exact fun h r mem tag => h r.1 r.2 tag mem

theorem delivery_of_no_frame (silent : ∀ frame, a.frame? ≠ some (.event frame)) :
    delivery k c a = [] ∧ routedTo k c a = false ∧ strayTo k c a = false := by
  unfold delivery routedTo strayTo
  cases brings : a.frame? with
  | none => exact ⟨rfl, rfl, rfl⟩
  | some frame =>
    cases frame with
    | event frame => exact absurd brings (silent frame)
    | _ => exact ⟨rfl, rfl, rfl⟩

/-- An event comes to a channel by one of the two ways, and not by both. -/
theorem length_delivery (routed : c.Routed) (k : Nat) (a : Action) :
    (delivery k c a).length =
      (if routedTo k c a then 1 else 0) + (if strayTo k c a then 1 else 0) := by
  by_cases brings : ∃ frame, a.frame? = some (.event frame)
  case neg =>
    obtain ⟨none_, notRouted, notStray⟩ :=
      delivery_of_no_frame (k := k) (c := c) fun frame h => brings ⟨frame, h⟩
    rw [none_, notRouted, notStray]
    rfl
  case pos =>
    obtain ⟨frame, brings⟩ := brings
    have byRoute := routedTo_of_frame (k := k) (c := c) brings
    have byType := strayTo_of_frame (k := k) (c := c) brings
    rw [delivery_of_frame brings]
    -- With a route for its id the frame goes there and nowhere else; without one it
    -- goes by its type.
    by_cases known : ∃ id type, frame.id = some id ∧ (id, type) ∈ c.subscriptions.routes
    · obtain ⟨id, type, tag, mem⟩ := known
      have notStray : strayTo k c a = false :=
        Bool.eq_false_iff.2 fun h => (byType.1 h).2.1 id type tag mem
      have goes : routedTo k c a = true ↔
          c.reading = true ∧ c.subscriptions.streams.find? type = some k := by
        refine byRoute.trans (and_congr_right fun _ => ⟨?_, fun h => ⟨id, type, tag, mem, h⟩⟩)
        rintro ⟨i, type', tag', mem', found⟩
        obtain rfl : id = i := Option.some.inj (tag.symm.trans tag')
        have same := congrArg Prod.snd (List.inj_on_of_nodup_map routed.keys mem mem' rfl)
        exact (show type = type' from same) ▸ found
      rw [notStray, tag, Subscriptions.target_of_mem routed.keys mem]
      by_cases h : routedTo k c a = true
      · rw [if_pos h, if_pos (goes.1 h)]
        rfl
      · rw [if_neg h, if_neg (mt goes.2 h)]
        rfl
    · have notRouted : routedTo k c a = false :=
        Bool.eq_false_iff.2 fun h =>
          let ⟨_, id, type, tag, mem, _⟩ := byRoute.1 h
          known ⟨id, type, tag, mem⟩
      have own : c.subscriptions.target frame.id frame.event = frame.event.type := by
        cases tag : frame.id with
        | none => rfl
        | some id =>
          exact Subscriptions.target_of_unrouted (fun type mem => known ⟨id, type, tag, mem⟩) _
      have goes : strayTo k c a = true ↔
          c.reading = true ∧ c.subscriptions.streams.find? frame.event.type = some k :=
        byType.trans (and_congr_right fun _ =>
          and_iff_right fun id type tag mem => known ⟨id, type, tag, mem⟩)
      rw [notRouted, own]
      by_cases h : strayTo k c a = true
      · rw [if_pos h, if_pos (goes.1 h)]
        rfl
      · rw [if_neg h, if_neg (mt goes.2 h)]
        rfl

theorem count_firings (reachable : c.Reachable) (k f : Nat) (moves : List (Nat × Action)) :
    ((firings k c moves).map Prod.fst).count f =
      (labels (routedTo k) c moves).count f + (labels (strayTo k) c moves).count f := by
  induction moves generalizing c with
  | nil => rfl
  | cons p rest ih =>
    obtain ⟨i, a⟩ := p
    have one : (((delivery k c a).map fun frame => (i, frame.event)).map Prod.fst).count f =
        ((if routedTo k c a then [i] else []).count f) +
          ((if strayTo k c a then [i] else []).count f) := by
      have len := length_delivery reachable.routed k a
      have const : ((delivery k c a).map fun frame => (i, frame.event)).map Prod.fst =
          List.replicate (delivery k c a).length i := by
        rw [List.map_map]
        exact List.map_const'
      rw [const, len, List.count_replicate]
      cases routedTo k c a <;> cases strayTo k c a <;> by_cases e : i = f <;> simp [e]
    show ((_ ++ firings k (c.act a) rest).map Prod.fst).count f =
      (_ ++ labels (routedTo k) (c.act a) rest).count f +
        (_ ++ labels (strayTo k) (c.act a) rest).count f
    rw [List.map_append, List.count_append, List.count_append, List.count_append, one,
      ih (reachable.act a)]
    omega

/-! ### Routes that last -/

/-- While the connection is not down, no outcome refuses the command. -/
def Accepts (c : Connection) (id : Nat) : Prop :=
  c.connected = true → ∀ e, (id, .error e) ∉ c.outcomes

theorem Accepts.act (h : Accepts c id) (sound : c.Correlated) (accepted : a.refuses id = false) :
    Accepts (c.act a) id := by
  intro up e hm
  have old := h ((c.act_step a).connected up) e
  rcases (c.act_step a).commands with ⟨n, rfl, t⟩ | event
  · cases t with
    | aside s s' at_ open_ callers before after unchanged messages =>
      exact old (unchanged.outcomes ▸ hm)
    | issued s command purpose at_ open_ before starts callers connected connected' commands
        outcomes messages => exact old (outcomes ▸ hm)
    | stranded i command purpose reason at_ callers commands outcomes connected messages =>
      exact old (outcomes ▸ hm)
    | queued i command purpose at_ callers unchanged messages =>
      exact old (unchanged.outcomes ▸ hm)
    | answered i purpose outcome at_ parked callers commands outcomes connected messages =>
      rw [outcomes] at hm
      exact old (List.mem_of_mem_filter hm)
    | closed at_ callers commands outcomes down messages =>
      rw [down] at up
      cases up
  · cases event with
    | quiet silent callers unchanged messages => exact old (unchanged.outcomes ▸ hm)
    | answer i outcome mine other callers commands outcomes connected messages =>
      rw [outcomes, outcomes_answer sound, List.mem_append] at hm
      refine hm.elim old fun hm => ?_
      split at hm
      · obtain ⟨rfl, rfl⟩ := Prod.mk.inj (List.mem_singleton.1 hm)
        rw [Action.refuses, mine] at accepted
        cases accepted
      · exact List.not_mem_nil hm
    | down silent callers commands outcomes down messages =>
      rw [down] at up
      cases up

/-- As long as the connection is up, a subscription keeps its route until it is
refused or taken out. -/
theorem route_act (reachable : c.Reachable) (up : (c.act a).isUp = true) (no : ¬ Takes type c a)
    (accepts : Accepts c id) (h : (id, type) ∈ c.subscriptions.routes) :
    (id, type) ∈ (c.act a).subscriptions.routes := by
  cases (c.act_step a).subscriptions with
  | event frame reading brings subs => rwa [subs, Subscriptions.routes_dispatch]
  | change subscriptions silent change left =>
    rw [left.of_up up]
    cases change with
    | same => exact h
    | stream eventType => rwa [Subscriptions.routes_stream]
    | route eventType _ =>
      rw [Subscriptions.mem_route]
      exact .inl ⟨h, Nat.ne_of_lt (reachable.routed.given id type h)⟩
    | drop receiver => exact h
    | take eventType handle takes take =>
      obtain ⟨-, rfl⟩ := Subscriptions.take_eq_some take
      refine List.mem_filter.2 ⟨h, ?_⟩
      simp only [ne_eq, decide_eq_true_eq]
      exact fun e => no (e ▸ takes)
    | answered n i eventType receiver outcome at_ parked =>
      refine Subscriptions.mem_answered.2 ⟨h, ?_⟩
      rintro rfl
      cases outcome with
      | ok value => exact ⟨value, rfl⟩
      | error e =>
        have connected := (isUp_iff.1 ((c.act_step a).isUp up)).1
        exact absurd parked (accepts connected e)

/-- A subscription that lost its route on a connection that is up, and that the
hub did not refuse, was taken out. -/
theorem takes_of_unrouted {actions : List Action} (reachable : c.Reachable)
    (accepts : Accepts c id) (accepted : ∀ b ∈ actions, b.refuses id = false)
    (up : (c.actAll actions).isUp = true) (h : (id, type) ∈ c.subscriptions.routes)
    (lost : (id, type) ∉ (c.actAll actions).subscriptions.routes) :
    Sometime (Takes type) c actions := by
  induction actions generalizing c with
  | nil => exact absurd h lost
  | cons b rest ih =>
    by_cases now : Takes type c b
    · exact .inl now
    · have still := route_act reachable (isUp_of_actAll (c.act b) rest up) now accepts h
      exact .inr (ih (reachable.act b)
        (accepts.act reachable.correlated (accepted b List.mem_cons_self))
        (fun d hd => accepted d (List.mem_cons_of_mem _ hd)) up still lost)

/-- A subscription is tied to a channel as long as that channel is its stream's;
after that, nothing comes to the channel any more. -/
def Tied (c : Connection) (id : Nat) (type : String) (k : Nat) : Prop :=
  c.isUp = true ∧ (id, type) ∈ c.subscriptions.routes ∧
      c.subscriptions.streams.find? type = some k ∨
    ∃ ch, c.subscriptions.channels[k]? = some ch ∧ ch.ended = true

theorem Tied.act (h : Tied c id type k) (reachable : c.Reachable) (accepts : Accepts c id)
    (a : Action) : Tied (c.act a) id type k := by
  rcases h with ⟨up, mem, found⟩ | ⟨ch, hch, ended⟩
  · obtain ⟨ch, hch, -⟩ := reachable.streams.isOpen type k found
    obtain ⟨ch', hch', -⟩ := (c.act_step a).channel hch
    -- It is taken out, or the connection goes down, or nothing changes for it.
    by_cases takes : Takes type c a
    · exact .inr ⟨ch', hch', ended_of_takes takes found hch'⟩
    · rcases (c.act_step a).up_or_ended up with up' | ended
      · exact .inl ⟨up', route_act reachable up' takes accepts mem, stream_act up' takes found⟩
      · exact .inr ⟨ch', hch', ended.ended k ch' hch'⟩
  · obtain ⟨ch', hch', -, -, ended'⟩ := (c.act_step a).channel hch
    exact .inr ⟨ch', hch', ended' ended⟩

theorem frame_of_routedTo (goes : routedTo k c a = true) :
    ∃ frame, a.frame? = some (.event frame) := by
  by_contra silent
  rw [(delivery_of_no_frame fun frame h => silent ⟨frame, h⟩).2.1] at goes
  cases goes

theorem tag?_of_frame {frame : EventFrame} (brings : a.frame? = some (.event frame)) :
    a.tag? = some frame.id := by
  rw [Action.tag?, brings]

/-- What comes to a tied channel by a route is tagged with its subscription. -/
theorem Tied.tag (h : Tied c id type k) (reachable : c.Reachable) (goes : routedTo k c a = true) :
    a.tag? = some (some id) := by
  obtain ⟨frame, brings⟩ := frame_of_routedTo goes
  obtain ⟨-, i, type', tag, mem', found'⟩ := (routedTo_of_frame brings).1 goes
  rcases h with ⟨up, mem, found⟩ | ⟨ch, hch, ended⟩
  · -- The channel has one stream, and that has one route.
    obtain rfl := reachable.streams.injective _ _ k found found'
    rw [tag?_of_frame brings, tag, reachable.routed.unique reachable.inLine up mem mem']
  · exact absurd found' (reachable.streams.no_stream hch ended type')

/-- What comes by a route finds its subscription tied to the channel. -/
theorem tied_of_routedTo (reachable : c.Reachable) (goes : routedTo k c a = true) :
    ∃ id type, a.tag? = some (some id) ∧ Tied c id type k := by
  obtain ⟨frame, brings⟩ := frame_of_routedTo goes
  obtain ⟨-, id, type, tag, mem, found⟩ := (routedTo_of_frame brings).1 goes
  refine ⟨id, type, by rw [tag?_of_frame brings, tag], .inl ⟨?_, mem, found⟩⟩
  by_contra down
  rw [reachable.unrouted (by simpa using down)] at mem
  exact List.not_mem_nil mem

/-! ### Counting -/

theorem count_labels_cons (P : Connection → Action → Bool) (i : Nat) (a : Action)
    (rest : List (Nat × Action)) :
    (labels P c ((i, a) :: rest)).count f =
      (if P c a = true ∧ i = f then 1 else 0) + (labels P (c.act a) rest).count f := by
  show ((if P c a then [i] else []) ++ labels P (c.act a) rest).count f = _
  rw [List.count_append]
  congr 1
  cases P c a <;> by_cases e : i = f <;> simp [e]

/-- No frame of a firing comes to a tied channel by a route unless it is tagged
with the subscription of that channel. -/
theorem count_routed_of_tied (moves : List (Nat × Action)) (reachable : c.Reachable)
    (tied : Tied c id type k) (accepts : Accepts c id)
    (accepted : ∀ q ∈ moves, q.2.refuses id = false)
    (other : ∀ q ∈ moves, q.1 = f → q.2.tag? ≠ some (some id)) :
    (labels (routedTo k) c moves).count f = 0 := by
  induction moves generalizing c with
  | nil => rfl
  | cons p rest ih =>
    obtain ⟨i, a⟩ := p
    have later := ih (reachable.act a) (tied.act reachable accepts a)
      (accepts.act reachable.correlated (accepted _ List.mem_cons_self))
      (fun q hq => accepted q (List.mem_cons_of_mem _ hq))
      fun q hq => other q (List.mem_cons_of_mem _ hq)
    rw [count_labels_cons, later, if_neg]
    rintro ⟨goes, same⟩
    exact other _ List.mem_cons_self same (tied.tag reachable goes)

/-- One frame of a firing comes to a channel by a route, at most. -/
theorem count_routed_le_one {moves : List (Nat × Action)} (reachable : c.Reachable)
    (fair : FairHub moves)
    (accepts : ∀ p ∈ moves, ∀ id, p.2.tag? = some (some id) → Accepts c id) :
    (labels (routedTo k) c moves).count f ≤ 1 := by
  induction moves generalizing c with
  | nil => exact Nat.zero_le _
  | cons p rest ih =>
    obtain ⟨i, a⟩ := p
    have once := List.pairwise_cons.1 fair.once
    have accepted : ∀ p ∈ (i, a) :: rest, ∀ id, p.2.tag? = some (some id) →
        ∀ q ∈ (i, a) :: rest, q.2.refuses id = false := by
      intro p hp id tag q hq
      have h := fair.accepted p hp q hq
      rwa [tag] at h
    rw [count_labels_cons]
    by_cases first : routedTo k c a = true ∧ i = f
    · obtain ⟨goes, rfl⟩ := first
      obtain ⟨id, type, tag, tied⟩ := tied_of_routedTo reachable goes
      have mine := accepts _ List.mem_cons_self id tag
      have refused := accepted _ List.mem_cons_self id tag
      -- Frames of the same firing have other tags, so none of them comes here.
      have rest_ := count_routed_of_tied (f := i) rest (reachable.act a)
        (tied.act reachable mine a)
        (mine.act reachable.correlated (refused _ List.mem_cons_self))
        (fun q hq => refused q (List.mem_cons_of_mem _ hq))
        (fun q hq same => by
          rw [← tag]
          exact (once.1 q hq same.symm (by rw [tag]; rfl)).symm)
      rw [rest_]
      split <;> omega
    · rw [if_neg first, Nat.zero_add]
      refine ih (reachable.act a) ⟨once.2, fun p hp q hq => ?_⟩ fun p hp id tag => ?_
      · exact fair.accepted p (List.mem_cons_of_mem _ hp) q (List.mem_cons_of_mem _ hq)
      · have hp := List.mem_cons_of_mem (i, a) hp
        exact (accepts p hp id tag).act reachable.correlated
          (accepted p hp id tag _ List.mem_cons_self)

/-! ### What listeners hear -/

theorem accepts_run {actions : List Action} (reachable : c.Reachable) (accepts : Accepts c id)
    (accepted : ∀ b ∈ actions, b.refuses id = false) : Accepts (c.actAll actions) id := by
  induction actions generalizing c with
  | nil => exact accepts
  | cons b rest ih =>
    exact ih (reachable.act b) (accepts.act reachable.correlated (accepted b List.mem_cons_self))
      fun d hd => accepted d (List.mem_cons_of_mem _ hd)

theorem accepts_actAll {moves : List (Nat × Action)} (reachable : c.Reachable)
    (accepts : Accepts c id) (accepted : ∀ q ∈ moves, q.2.refuses id = false) :
    Accepts (c.actAll (moves.map Prod.snd)) id := by
  refine accepts_run reachable accepts fun b hb => ?_
  obtain ⟨q, hq, rfl⟩ := List.mem_map.1 hb
  exact accepted q hq

/-- A channel gets every fired event at most once exactly if at most one stray
frame of it comes there, and none besides a frame that comes by its route; by
their routes, no two frames of one firing come to one channel. What a new
listener on the channel hears are these events, in order. A subscription that
the hub accepts loses its route on a connection that is up only when it is
taken out. -/
theorem heard_once_iff {before rest : List (Nat × Action)} (fair : FairHub (before ++ rest))
    (capacity : Nat) (broken : Option String) (k f : Nat) :
    let c := (start capacity broken).actAll (before.map Prod.snd)
    (((firings k c rest).map Prod.fst).count f ≤ 1 ↔
      (labels (strayTo k) c rest).count f = 0 ∨
        (labels (strayTo k) c rest).count f = 1 ∧ (labels (routedTo k) c rest).count f = 0) ∧
    (labels (routedTo k) c rest).count f ≤ 1 ∧
    (∀ (r : Receiver) (ch : Channel) (moves : List Move), r.channel = k →
      c.subscriptions.channels[k]? = some ch → r.next = ch.events.length →
      Move.actions moves = rest.map Prod.snd → KeepsUp c r moves →
      (follow Subscriptions.receiveKept c r moves).1.filterMap Received.event? ++
          ((c.actAll (rest.map Prod.snd)).subscriptions.channelOf r).events.drop
            (follow Subscriptions.receiveKept c r moves).2.next =
        (firings k c rest).map Prod.snd) ∧
    (∀ id type, (id, type) ∈ c.subscriptions.routes →
      (∀ q ∈ before ++ rest, q.2.refuses id = false) →
      (c.actAll (rest.map Prod.snd)).isUp = true →
      (id, type) ∉ (c.actAll (rest.map Prod.snd)).subscriptions.routes →
      Sometime (Takes type) c (rest.map Prod.snd)) := by
  intro c
  have init : (start capacity broken).Reachable := ⟨capacity, broken, [], rfl⟩
  have reachable : c.Reachable := init.actAll _
  have accepts : ∀ id, (∀ q ∈ before ++ rest, q.2.refuses id = false) → Accepts c id :=
    fun id h => accepts_actAll init (fun _ _ => List.not_mem_nil)
      fun q hq => h q (List.mem_append_left _ hq)
  have once : (labels (routedTo k) c rest).count f ≤ 1 := by
    refine count_routed_le_one reachable ⟨?_, fun p hp q hq => ?_⟩ fun p hp id tag => ?_
    · exact (List.pairwise_append.1 fair.once).2.1
    · exact fair.accepted p (List.mem_append_right _ hp) q (List.mem_append_right _ hq)
    · refine accepts id fun q hq => ?_
      have h := fair.accepted p (List.mem_append_right _ hp) q hq
      rwa [tag] at h
  refine ⟨?_, once, fun r ch moves channel hch fresh same keepsUp => ?_,
    fun id type mem accepted up lost => ?_⟩
  -- A frame is heard as often as it is routed or strays to the channel.
  · rw [count_firings reachable]
    omega
  · subst channel
    obtain ⟨ch', hch', all⟩ := follow_events hch (Nat.le_of_eq fresh) keepsUp
    rw [same] at hch' all
    rw [map_snd_firings, Subscriptions.channelOf_eq hch', all, fresh, List.drop_length,
      List.nil_append]
  · refine takes_of_unrouted reachable (accepts id accepted) (fun b hb => ?_) up mem lost
    obtain ⟨q, hq, rfl⟩ := List.mem_map.1 hb
    exact accepted q (List.mem_append_right _ hq)

/-- An event that comes to its one listener by its route. -/
theorem heard_once_route :
    let text (s : String) := Action.receive ⟨⟨⟨2024, 1, 1⟩, 0, 0, 0, 0⟩, 0⟩ (.text s)
    let before := [(0, .call (.listen "t")), (0, .run 0), (0, .run 0), (0, .run 0),
      (0, text "[\"result\",1,true]"), (0, .run 0)]
    let rest := [(7, text "[\"event\",1,[\"t\",0]]")]
    let c := (start 4 none).actAll (before.map Prod.snd)
    FairHub (before ++ rest) ∧ (firings 0 c rest).length = 1 ∧
      ((firings 0 c rest).map Prod.fst).count 7 ≤ 1 := by
  intro text before rest c
  have fair : FairHub (before ++ rest) := by decide +kernel
  have one : (firings 0 c rest).length = 1 := by decide +kernel
  have stray : (labels (strayTo 0) c rest).count 7 = 0 := by decide +kernel
  exact ⟨fair, one, (heard_once_iff fair 4 none 0 7).1.2 (.inl stray)⟩

/-- An event that its listener hears twice. The first caller listens to all
events, the second to those of one type; while the third takes the subscription
for all events out, the hub sends the frames of an event for both. -/
theorem heard_twice :
    ¬ ∀ (before rest : List (Nat × Action)), FairHub (before ++ rest) →
      ∀ (capacity : Nat) (broken : Option String) (k f : Nat),
        ((firings k ((start capacity broken).actAll (before.map Prod.snd)) rest).map
          Prod.fst).count f ≤ 1 := by
  intro h
  let text (s : String) := Action.receive ⟨⟨⟨2024, 1, 1⟩, 0, 0, 0, 0⟩, 0⟩ (.text s)
  let before := [(0, .call (.listen "*")), (0, .run 0), (0, .run 0), (0, .run 0),
    (0, text "[\"result\",1,true]"), (0, .run 0), (0, .call (.listen "t")), (0, .run 1), (0, .run 1),
    (0, .run 1), (0, text "[\"result\",2,true]"), (0, .run 1), (0, .call (.unlisten "*")),
    (0, .run 2), (0, .run 2)]
  let rest := [(7, text "[\"event\",1,[\"t\",0]]"), (7, text "[\"event\",2,[\"t\",0]]")]
  have once := h before rest (by decide +kernel) 4 none 1 7
  have twice : ((firings 1 ((start 4 none).actAll (before.map Prod.snd)) rest).map
      Prod.fst).count 7 = 2 := by decide +kernel
  rw [twice] at once
  exact absurd once (by decide)

end Connection

end HubAutomation
