import HubAutomation.Proofs.Client.Readings
import HubAutomation.Proofs.Client.Routes

/-!
# Live listeners

A receiver comes from the stream of its type at once, but its caller then waits
for the lock on subscriptions. A caller that asked for the lock earlier, to end
the subscription of that type, goes first and ends this very stream. In all
other runs the receiver is live when the caller gets it: it hears all that the
hub sends for the subscription of its type.

- `Connection.BeginsEnding`: a caller asks for the lock to end a subscription.
- `Connection.Waiting`, `Connection.Returned`: how far a caller is that listens.
- `Connection.arrivals`: the event frames that a run brings.
- `Connection.Live`: what a live receiver hears.
- `Connection.listener_live_iff`: the receivers that are live.
-/

namespace HubAutomation

namespace Connection

variable {c c' : Connection} {n m k : Nat} {type : String} {r : Receiver} {a : Action}

/-! ### Ends of subscriptions -/

/-- A caller that wants to end the subscription of a type begins. -/
def BeginsEnding (type : String) (c : Connection) : Action → Prop
  | .run m => c.view m CallerState.unlistens? = some type
  | _ => False

instance (type : String) (c : Connection) : DecidablePred (BeginsEnding type c)
  | .run m => inferInstanceAs (Decidable (c.view m CallerState.unlistens? = some type))
  | .call _ | .write | .receive _ _ | .release | .breakWrites _ => .isFalse id

/-- Whoever is about to end a subscription after an action was so before it, or
begins with it. -/
theorem ending_act (no : ¬ BeginsEnding type c a)
    (h : (c.act a).view m CallerState.ending? = some type) :
    c.view m CallerState.ending? = some type := by
  rcases (c.act_step a).listeners with ⟨n, rfl, t⟩ | e
  · -- Only a turn in which the caller begins puts it there.
    have other : ∀ {s s' : CallerState}, c.callers[n]? = some s →
        (c.act (.run n)).callers = c.callers.set n s' → s'.ending? ≠ some type →
        c.view m CallerState.ending? = some type := by
      intro s s' at_ callers ne
      rw [view_set _ at_ callers] at h
      split at h
      · exact absurd h ne
      · exact h
    cases t with
    | aside s s' at_ open_ callers before after asks gets lock left =>
      refine other at_ callers fun e => ?_
      rw [CallerState.ending?_eq_some.1 e] at after
      cases after
    | listen eventType at_ callers lock subs => exact other at_ callers nofun
    | unlisten eventType at_ callers lock subs =>
      refine other at_ callers fun e => no ?_
      cases CallerState.ending?_eq_some.1 e
      exact view_eq_some.2 ⟨_, at_, rfl⟩
    | join eventType receiver at_ holds recorded callers lock left => exact other at_ callers nofun
    | subscribe eventType receiver at_ holds unrecorded connected callers commands lock subs =>
      exact other at_ callers nofun
    | lost s eventType receiver reason at_ asked down callers lock left =>
      exact other at_ callers nofun
    | untaken eventType at_ holds unrecorded callers lock left => exact other at_ callers nofun
    | taken eventType subscriptions handle s' at_ holds take callers after gets lock left =>
      refine other at_ callers fun e => ?_
      rw [CallerState.ending?_eq_some.1 e] at after
      cases after
    | queued id command eventType receiver at_ callers lock subs => exact other at_ callers nofun
    | answered id eventType receiver outcome at_ parked callers lock left =>
      exact other at_ callers nofun
  · exact e.view (fun _ => rfl) h

/-- As long as the connection is up and its subscription is not taken out, a
stream keeps its channel. -/
theorem stream_act (up : (c.act a).isUp = true) (no : ¬ Takes type c a)
    (h : c.subscriptions.streams.find? type = some k) :
    (c.act a).subscriptions.streams.find? type = some k := by
  cases (c.act_step a).subscriptions with
  | event frame reading brings subs =>
    rw [subs, Subscriptions.dispatch]
    split <;> exact h
  | change subscriptions silent change left =>
    rw [left.of_up up]
    cases change with
    | same => exact h
    | stream eventType =>
      show (c.subscriptions.channelFor eventType).1.streams.find? type = some k
      unfold Subscriptions.channelFor
      split
      · exact h
      · rename_i absent
        -- A new channel is opened for a type that had none.
        have other : type ≠ eventType := by
          rintro rfl
          rw [h] at absent
          cases absent
        exact (Dict.find?_insert_other _ _ other).trans h
    | route eventType up => exact h
    | drop receiver => exact h
    | take eventType handle takes take =>
      obtain ⟨-, rfl⟩ := Subscriptions.take_eq_some take
      have other : type ≠ eventType := fun e => no (e ▸ takes)
      show (c.subscriptions.endStream eventType).streams.find? type = some k
      unfold Subscriptions.endStream
      split
      · exact (Dict.find?_erase_other _ other).trans h
      · exact h
    | answered n id eventType receiver outcome at_ parked =>
      cases outcome with
      | ok value => exact h
      | error e =>
        unfold Subscriptions.answered
        dsimp only
        split <;> exact h

theorem Takes.take (h : Takes type c (.run m)) :
    ∃ s handle, c.subscriptions.take type = some (s, handle) ∧ LeftWith s (c.act (.run m)) := by
  obtain ⟨is_, holds, recorded⟩ := h
  obtain ⟨s, at_, is_⟩ := view_eq_some.1 is_
  obtain rfl := CallerState.ending?_eq_some.1 is_
  obtain ⟨handle, found⟩ := Option.isSome_iff_exists.1 recorded
  obtain ⟨subscriptions, take⟩ : ∃ s, c.subscriptions.take type = some (s, handle) := by
    rw [Subscriptions.take, found]
    exact ⟨_, rfl⟩
  refine ⟨subscriptions, handle, take, ?_⟩
  rw [run_locking at_, if_pos holds, locked, take]
  cases handle with
  | none => exact leftWith_finish { c with subscriptions }.unlock m _
  | some id =>
    -- The hub is told if it can be; the subscriptions are the same either way.
    show LeftWith subscriptions (startCommand _ m _ _)
    unfold startCommand
    split
    · exact .inl rfl
    · exact leftWith_conclude { c with subscriptions }.unlock m .unsubscribe _

/-- A subscription that is taken out ends its stream. -/
theorem ended_of_takes {ch : Channel} (takes : Takes type c a)
    (h : c.subscriptions.streams.find? type = some k)
    (hch : (c.act a).subscriptions.channels[k]? = some ch) : ch.ended = true := by
  cases a with
  | run m =>
    obtain ⟨s, handle, take, left⟩ := takes.take
    rcases left with left | ⟨left, -⟩
    · rw [left, (Subscriptions.take_eq_some take).2] at hch
      have hch : (c.subscriptions.endStream type).channels[k]? = some ch := hch
      rw [Subscriptions.endStream, h] at hch
      have hch : (c.subscriptions.modify k .finish).channels[k]? = some ch := hch
      rw [Subscriptions.getElem?_modify, if_pos rfl] at hch
      obtain ⟨old, -, rfl⟩ := Option.map_eq_some_iff.1 hch
      rfl
    · rw [left] at hch
      exact Subscriptions.ended_of_close hch
  | _ => cases takes

/-! ### Callers that listen -/

/-- A caller waits to listen, with a receiver in its hands. Those who are about
to end the subscription of its type stand in line before it. -/
structure Waiting (c : Connection) (n : Nat) (type : String) (r : Receiver) : Prop where
  caller : ∃ s, c.callers[n]? = some s ∧
    (s = .locking (.listen type r) ∨ ∃ id, s.subscribing? = some (id, type, r))
  ahead : ∀ m, c.view m CallerState.ending? = some type →
    ∃ before after, c.lock.line = before ++ n :: after ∧ m ∈ before

/-- A caller that listened is done, and nobody is about to end the subscription
of its type. -/
structure Returned (c : Connection) (n : Nat) (type : String) (r : Receiver) : Prop where
  caller : ∃ result, c.callers[n]? = some (.done result) ∧
    (result = .ok (.listener type r) ∧ c.subscriptions.isSubscribed type = true ∨
      ∃ e, result = .error e)
  nobody : ∀ m, c.view m CallerState.ending? ≠ some type

/-- Whoever has the lock is first in line. -/
theorem Waiting.nobody (w : Waiting c n type r) (line : c.InLine) (holds : c.lock.holder = some n)
    (m : Nat) : c.view m CallerState.ending? ≠ some type := by
  intro h
  obtain ⟨before, after, e, hm⟩ := w.ahead m h
  have nodup := line.nodup
  rw [Lock.line_release holds] at e nodup
  cases before with
  | nil => exact List.not_mem_nil hm
  | cons i before =>
    obtain ⟨rfl, rest⟩ := List.cons.inj e
    rw [rest] at nodup
    exact (List.nodup_cons.1 nodup).1 (List.mem_append_right _ List.mem_cons_self)

/-- The caller itself takes a turn. -/
theorem Waiting.own (w : Waiting c n type r) (line : c.InLine)
    (no : ¬ BeginsEnding type c (.run n)) (t : ListenerTurn c n (c.act (.run n))) :
    Waiting (c.act (.run n)) n type r ∨ Returned (c.act (.run n)) n type r := by
  -- Only the holder of the lock goes on, so nobody is before it.
  have nobody : c.lock.holder = some n →
      ∀ m, (c.act (.run n)).view m CallerState.ending? ≠ some type :=
    fun holds m h => w.nobody line holds m (ending_act no h)
  have waits : c.lock.holder = some n → ∀ s', (c.act (.run n)).callers[n]? = some s' →
      (∃ id, s'.subscribing? = some (id, type, r)) → Waiting (c.act (.run n)) n type r :=
    fun holds s' at' asked => ⟨⟨s', at', .inr asked⟩, fun m h => absurd h (nobody holds m)⟩
  obtain ⟨s, at_, kind⟩ := w.caller
  cases t with
  | aside s₁ s' at' open_ callers before after asks gets lock left =>
    cases at_.symm.trans at'
    rcases kind with rfl | ⟨id, asked⟩
    · cases before
    · rw [CallerState.inLine_of_subscribing asked] at before
      cases before
  | listen eventType at' callers lock subs =>
    cases at_.symm.trans at'
    rcases kind with kind | ⟨id, kind⟩ <;> cases kind
  | unlisten eventType at' callers lock subs =>
    cases at_.symm.trans at'
    rcases kind with kind | ⟨id, kind⟩ <;> cases kind
  | untaken eventType at' holds unrecorded callers lock left =>
    cases at_.symm.trans at'
    rcases kind with kind | ⟨id, kind⟩ <;> cases kind
  | taken eventType subscriptions handle s' at' holds take callers after gets lock left =>
    cases at_.symm.trans at'
    rcases kind with kind | ⟨id, kind⟩ <;> cases kind
  | join eventType receiver at' holds recorded callers lock left =>
    cases at_.symm.trans at'
    rcases kind with kind | ⟨id, kind⟩ <;> cases kind
    refine .inr ⟨⟨_, by rw [callers, getElem?_set_caller at_, if_pos rfl], .inl ⟨rfl, ?_⟩⟩,
      nobody holds⟩
    rw [Subscriptions.isSubscribed, left.routes.2.2]
    exact recorded
  | subscribe eventType receiver at' holds unrecorded connected callers commands lock subs =>
    cases at_.symm.trans at'
    rcases kind with kind | ⟨id, kind⟩ <;> cases kind
    exact .inl (waits holds _ (by rw [callers, getElem?_set_caller at_, if_pos rfl]) ⟨_, rfl⟩)
  | lost s₁ eventType receiver reason at' asked down callers lock left =>
    have holds : c.lock.holder = some n := by
      rcases asked with ⟨-, holds, -⟩ | ⟨id, asked⟩
      · exact holds
      · exact line.holds n s₁ _ at' asked
    exact .inr ⟨⟨_, by rw [callers, getElem?_set_caller at', if_pos rfl], .inr ⟨_, rfl⟩⟩,
      nobody holds⟩
  | queued id command eventType receiver at' callers lock subs =>
    cases at_.symm.trans at'
    rcases kind with kind | ⟨i, kind⟩ <;> cases kind
    exact .inl (waits (line.holds n _ _ at_ rfl) _
      (by rw [callers, getElem?_set_caller at_, if_pos rfl]) ⟨_, rfl⟩)
  | answered id eventType receiver outcome at' parked callers lock left =>
    cases at_.symm.trans at'
    rcases kind with kind | ⟨i, kind⟩ <;> cases kind
    refine .inr ⟨⟨_, by rw [callers, getElem?_set_caller at_, if_pos rfl], ?_⟩,
      nobody (line.holds n _ _ at_ rfl)⟩
    have hub := left.routes.2.2
    rw [Subscriptions.hub_answered] at hub
    cases outcome with
    | ok value =>
      refine .inl ⟨rfl, ?_⟩
      rw [Subscriptions.isSubscribed, Dict.mem, hub, Dict.find?_insert_self]
      rfl
    | error e =>
      show (if e.isAlreadySubscribed then _ else _) = _ ∧ _ ∨ _
      dsimp only at hub
      split at hub
      · rename_i known
        refine .inl ⟨if_pos known, ?_⟩
        rw [Subscriptions.isSubscribed, Dict.mem, hub, Dict.find?_insert_self]
        rfl
      · rename_i new
        exact .inr ⟨e, if_neg new⟩

/-- Somebody else takes a turn. -/
theorem Waiting.turn (w : Waiting c n type r) (line : c.InLine)
    (no : ¬ BeginsEnding type c (.run m)) (t : ListenerTurn c m (c.act (.run m))) (other : m ≠ n) :
    Waiting (c.act (.run m)) n type r := by
  obtain ⟨s, at_, kind⟩ := w.caller
  have still := caller_act (a := .run m) (fun e => other (by cases e; rfl)) at_
  refine ⟨⟨s, still, kind⟩, fun j h => ?_⟩
  obtain ⟨before, after, e, hj⟩ := w.ahead j (ending_act no h)
  cases t.line line with
  | stay s₁ s' at' callers same holds lock => exact ⟨before, after, by rw [lock, e], hj⟩
  | join s₁ purpose at' callers out lock =>
    refine ⟨before, after ++ [m], ?_, hj⟩
    rw [lock, Lock.line_acquire line.idle, e, List.append_assoc]
    rfl
  | leave s₁ s' at' callers inside out holds lock =>
    rw [Lock.line_release holds, ← lock] at e
    cases before with
    | nil => exact absurd hj List.not_mem_nil
    | cons i before =>
      obtain ⟨rfl, rest⟩ := List.cons.inj e
      refine ⟨before, after, rest, (List.mem_cons.1 hj).resolve_left fun e => ?_⟩
      -- Whoever has left the line is not about to end anything.
      rw [e, view_set _ at' callers, if_pos rfl, CallerState.ending?_eq_some] at h
      rw [h] at out
      cases out

/-- Something happens around the callers. -/
theorem Waiting.event (w : Waiting c n type r) (no : ¬ BeginsEnding type c a)
    (e : ListenerEvent c a (c.act a)) : Waiting (c.act a) n type r := by
  obtain ⟨s, at_, kind⟩ := w.caller
  have further : ∀ request, s ≠ .ready request := by
    rintro request rfl
    rcases kind with kind | ⟨id, kind⟩ <;> cases kind
  refine ⟨⟨s, (e.caller_iff further n).2 at_, kind⟩, fun m h => ?_⟩
  rw [e.lock]
  exact w.ahead m (ending_act no h)

/-- What is recorded stays so until it is taken out. -/
theorem recorded_act {handle : Option Nat} (routed : c.Routed) (no : ¬ Takes type c a)
    (h : c.subscriptions.hub.find? type = some handle) :
    (c.act a).subscriptions.hub.find? type = some handle := by
  cases (c.act_step a).subscriptions with
  | event frame reading brings subs => rwa [subs, Subscriptions.hub_dispatch]
  | change subscriptions silent change left =>
    rw [left.routes.2.2]
    cases change with
    | same => exact h
    | stream eventType => rwa [Subscriptions.hub_stream]
    | route eventType up => exact h
    | drop receiver => exact h
    | take eventType taken takes take =>
      obtain ⟨-, rfl⟩ := Subscriptions.take_eq_some take
      have other : type ≠ eventType := fun e => no (e ▸ takes)
      exact (Dict.find?_erase_other _ other).trans h
    | answered n id eventType receiver outcome at_ parked =>
      -- What is under way is not recorded yet, so this is another type.
      have other : type ≠ eventType := by
        rintro rfl
        rw [routed.fresh n id type receiver ⟨_, at_, rfl⟩] at h
        cases h
      rw [Subscriptions.hub_answered]
      cases outcome with
      | ok value => exact (Dict.find?_insert_other _ _ other).trans h
      | error e =>
        dsimp only
        split
        · exact (Dict.find?_insert_other _ _ other).trans h
        · exact h

theorem not_takes_of_nobody (nobody : ∀ m, c.view m CallerState.ending? ≠ some type)
    (a : Action) : ¬ Takes type c a := by
  cases a with
  | run m => exact fun h => nobody m h.1
  | _ => exact id

theorem Returned.act (h : Returned c n type r) (routed : c.Routed) (no : ¬ BeginsEnding type c a) :
    Returned (c.act a) n type r := by
  obtain ⟨result, at_, kind⟩ := h.caller
  refine ⟨⟨result, done_act a at_, kind.imp_left fun ⟨is_, recorded⟩ => ⟨is_, ?_⟩⟩,
    fun m e => h.nobody m (ending_act no e)⟩
  obtain ⟨handle, found⟩ := Option.isSome_iff_exists.1 recorded
  rw [Subscriptions.isSubscribed, Dict.mem,
    recorded_act routed (not_takes_of_nobody h.nobody a) found]
  rfl

/-- A caller that waits goes on waiting, or is done. -/
theorem Waiting.act (w : Waiting c n type r) (line : c.InLine) (no : ¬ BeginsEnding type c a) :
    Waiting (c.act a) n type r ∨ Returned (c.act a) n type r := by
  rcases (c.act_step a).listeners with ⟨m, rfl, t⟩ | e
  · by_cases own : m = n
    · subst own
      exact w.own line no t
    · exact .inl (w.turn line no t own)
  · exact .inl (w.event no e)

theorem waiting_or_returned (actions : List Action) (reachable : c.Reachable)
    (h : Waiting c n type r ∨ Returned c n type r)
    (no : ¬ Sometime (BeginsEnding type) c actions) :
    Waiting (c.actAll actions) n type r ∨ Returned (c.actAll actions) n type r := by
  induction actions generalizing c with
  | nil => exact h
  | cons a rest ih =>
    refine ih (reachable.act a) ?_ fun later => no (.inr later)
    have no_ : ¬ BeginsEnding type c a := fun now => no (.inl now)
    rcases h with w | done
    · exact w.act reachable.inLine no_
    · exact .inr (done.act reachable.routed no_)

/-- While the connection stays up, a stream keeps its channel, unless its
subscription is taken out; then the channel has ended. -/
theorem stream_actAll (actions : List Action) (reachable : c.Reachable)
    (up : (c.actAll actions).isUp = true) (h : c.subscriptions.streams.find? type = some k) :
    (Sometime (Takes type) c actions →
      ∃ ch, (c.actAll actions).subscriptions.channels[k]? = some ch ∧ ch.ended = true) ∧
    (¬ Sometime (Takes type) c actions →
      (c.actAll actions).subscriptions.streams.find? type = some k) := by
  induction actions generalizing c with
  | nil => exact ⟨False.elim, fun _ => h⟩
  | cons a rest ih =>
    by_cases now : Takes type c a
    -- What has ended stays so, whatever comes later.
    · refine ⟨fun _ => ?_, fun no => absurd (.inl now) no⟩
      obtain ⟨ch, hch, -⟩ := reachable.streams.isOpen type k h
      obtain ⟨ch₁, hch₁, -⟩ := (c.act_step a).channel hch
      obtain ⟨ch₂, hch₂, -, -, ended⟩ := channel_actAll hch₁ rest
      exact ⟨ch₂, hch₂, ended (ended_of_takes now h hch₁)⟩
    · have found := stream_act (isUp_of_actAll (c.act a) rest up) now h
      obtain ⟨taken, kept⟩ := ih (reachable.act a) up found
      exact ⟨fun takes => taken (takes.resolve_left now),
        fun no => kept fun later => no (.inr later)⟩

/-! ### What a live receiver hears -/

/-- The event frames that a run brings before the connection goes down. -/
def arrivals : Connection → List Action → List EventFrame
  | _, [] => []
  | c, a :: rest =>
    (match a.frame? with
      | some (.event frame) => if c.isUp then [frame] else []
      | _ => []) ++ arrivals (c.act a) rest

/-- A receiver is live: its stream has not ended, and as long as nobody begins
to end the subscription of its type and it does not fall behind, it gets, once
and in order, what it has not read yet and what is delivered then. All events
that the hub sends for the recorded subscription are among the latter, in the
order in which they arrive. -/
structure Live (c : Connection) (type : String) (r : Receiver) : Prop where
  isOpen : ∃ ch, c.subscriptions.channels[r.channel]? = some ch ∧ ch.ended = false
  hears : ∀ moves : List Move, ¬ Sometime (BeginsEnding type) c (Move.actions moves) →
    KeepsUp c r moves →
    ∃ log : List EventFrame,
      (follow Subscriptions.receiveKept c r moves).1.filterMap Received.event? ++
          ((c.actAll (Move.actions moves)).subscriptions.channelOf r).events.drop
            (follow Subscriptions.receiveKept c r moves).2.next =
        (c.subscriptions.channelOf r).events.drop r.next ++ log.map EventFrame.event ∧
      ∀ id, c.subscriptions.hub.find? type = some (some id) →
        log.filter (fun frame => frame.id = some id) =
          (arrivals c (Move.actions moves)).filter fun frame => frame.id = some id

/-- Where the channel of a stream is: with its stream as long as the connection
is up, and ended after that. -/
def OnAir (c : Connection) (type : String) (k : Nat) : Prop :=
  c.isUp = true ∧ c.subscriptions.streams.find? type = some k ∨
    c.isUp = false ∧ ∃ ch, c.subscriptions.channels[k]? = some ch ∧ ch.ended = true

theorem OnAir.act (h : OnAir c type k) (reachable : c.Reachable) (no : ¬ Takes type c a) :
    OnAir (c.act a) type k := by
  rcases h with ⟨up, found⟩ | ⟨down, ch, hch, ended⟩
  · cases up' : (c.act a).isUp with
    | true => exact .inl ⟨up', stream_act up' no found⟩
    | false =>
      obtain ⟨ch, hch, -⟩ := reachable.streams.isOpen type k found
      obtain ⟨ch', hch', -⟩ := (c.act_step a).channel hch
      rcases (c.act_step a).up_or_ended up with up' | ended
      · rename_i down
        rw [down] at up'
        cases up'
      · exact .inr ⟨up', ch', hch', ended.ended k ch' hch'⟩
  · obtain ⟨ch', hch', -, -, ended'⟩ := (c.act_step a).channel hch
    refine .inr ⟨Bool.eq_false_iff.2 fun up => ?_, ch', hch', ended' ended⟩
    rw [(c.act_step a).isUp up] at down
    cases down

/-- All that the hub sends for the recorded subscription goes to its stream. -/
theorem OnAir.delivered (actions : List Action) {id : Nat} (h : OnAir c type k)
    (reachable : c.Reachable) (nobody : ∀ m, c.view m CallerState.ending? ≠ some type)
    (no : ¬ Sometime (BeginsEnding type) c actions)
    (recorded : c.subscriptions.hub.find? type = some (some id)) :
    (delivered k c actions).filter (fun frame => frame.id = some id) =
      (arrivals c actions).filter fun frame => frame.id = some id := by
  induction actions generalizing c with
  | nil => rfl
  | cons a rest ih =>
    have none_ := not_takes_of_nobody nobody a
    have rest_ := ih (h.act reachable none_) (reachable.act a)
      (fun m e => nobody m (ending_act (fun now => no (.inl now)) e)) (fun later => no (.inr later))
      (recorded_act reachable.routed none_ recorded)
    show ((delivery k c a ++ Connection.delivered k (c.act a) rest).filter _) =
      ((_ ++ arrivals (c.act a) rest).filter _)
    rw [List.filter_append, List.filter_append, rest_]
    congr 1
    unfold delivery
    cases brings : a.frame? with
    | none => rfl
    | some frame =>
      cases frame with
      | event frame =>
        dsimp only
        -- While the connection is up the route leads there; after that nothing is heard.
        rcases h with ⟨up, found⟩ | ⟨down, ch, hch, ended⟩
        · rw [if_pos up]
          by_cases tagged : frame.id = some id
          · have mem := reachable.routed.recorded up type id recorded
            have goes := Subscriptions.target_of_mem reachable.routed.keys mem frame.event
            rw [tagged, goes, if_pos ⟨reachable.reading up, found⟩]
          · split
            · rfl
            · simp [tagged]
        · rw [if_neg fun goes => reachable.streams.no_stream hch ended _ goes.2,
            if_neg (by rw [down]; exact Bool.false_ne_true)]
      | _ => rfl

/-- A receiver on the channel of its type's stream is live. -/
theorem live_of_stream (reachable : c.Reachable) (up : c.isUp = true)
    (nobody : ∀ m, c.view m CallerState.ending? ≠ some type)
    (found : c.subscriptions.streams.find? type = some r.channel)
    (le : ∀ ch, c.subscriptions.channels[r.channel]? = some ch → r.next ≤ ch.events.length) :
    Live c type r := by
  obtain ⟨ch, hch, open_⟩ := reachable.streams.isOpen type r.channel found
  refine ⟨⟨ch, hch, open_⟩, fun moves no keepsUp => ?_⟩
  obtain ⟨ch', hch', all⟩ := follow_events hch (le ch hch) keepsUp
  refine ⟨Connection.delivered r.channel c (Move.actions moves), ?_, fun id recorded => ?_⟩
  · rw [Subscriptions.channelOf_eq hch', Subscriptions.channelOf_eq hch]
    exact all
  · have onAir : OnAir c type r.channel := .inl ⟨up, found⟩
    exact onAir.delivered _ reachable nobody no recorded

/-! ### Listening, from its begin to its end -/

/-- A caller that begins to listen asks for the lock, with a receiver on the
stream of its type that has nothing to read yet. -/
theorem waiting_of_listens (reachable : c.Reachable)
    (begins : c.view n CallerState.listens? = some type) :
    ∃ r, Waiting (c.act (.run n)) n type r ∧
      (c.act (.run n)).subscriptions.streams.find? type = some r.channel ∧
      ∀ ch, (c.act (.run n)).subscriptions.channels[r.channel]? = some ch →
        r.next = ch.events.length := by
  obtain ⟨s, at_, is_⟩ := view_eq_some.1 begins
  obtain rfl := CallerState.listens?_eq_some.1 is_
  have run : c.act (.run n) =
      { c with subscriptions := (c.subscriptions.stream type).1 }.askLock n
        (.listen type (c.subscriptions.stream type).2) := by
    exact run_ready at_
  have callers : (c.act (.run n)).callers =
      c.callers.set n (.locking (.listen type (c.subscriptions.stream type).2)) := by rw [run]; rfl
  have lock : (c.act (.run n)).lock = c.lock.acquire n := by rw [run]; rfl
  have subs : (c.act (.run n)).subscriptions = (c.subscriptions.stream type).1 := by rw [run]; rfl
  refine ⟨(c.subscriptions.stream type).2, ⟨⟨_, ?_, .inl rfl⟩, fun m h => ?_⟩, ?_, ?_⟩
  · rw [callers, getElem?_set_caller at_, if_pos rfl]
  · have no : ¬ BeginsEnding type c (.run n) := by
      intro e
      obtain ⟨s, at', is_⟩ := view_eq_some.1 e
      cases at_.symm.trans at'
      cases is_
    obtain ⟨s, at', is_⟩ := view_eq_some.1 (ending_act no h)
    obtain rfl := CallerState.ending?_eq_some.1 is_
    -- Whoever is about to end the subscription is in line already, and the caller
    -- comes to its end.
    refine ⟨c.lock.line, [], ?_, (reachable.inLine.mem_iff m).2 ⟨_, at', rfl⟩⟩
    rw [lock, Lock.line_acquire reachable.inLine.idle]
  · rw [subs, Subscriptions.find?_stream]
  · intro ch hch
    rw [subs] at hch
    have hch : ((c.subscriptions.channelFor type).1.modify (c.subscriptions.channelFor type).2
        Channel.subscribe).channels[(c.subscriptions.channelFor type).2]? = some ch := hch
    rw [Subscriptions.getElem?_modify, if_pos rfl] at hch
    obtain ⟨old, found, rfl⟩ := Option.map_eq_some_iff.1 hch
    show ((c.subscriptions.channelFor type).1.channels[(c.subscriptions.channelFor type).2]?.map
      fun ch => ch.events.length).getD 0 = _
    rw [found]
    rfl

/-- Whoever takes a subscription out was about to do so before, or began with it
meanwhile. -/
theorem ending_of_takes (actions : List Action) (no : ¬ Sometime (BeginsEnding type) c actions)
    (takes : Sometime (Takes type) c actions) : ∃ m, c.view m CallerState.ending? = some type := by
  induction actions generalizing c with
  | nil => exact takes.elim
  | cons a rest ih =>
    rcases takes with now | later
    · cases a with
      | run m => exact ⟨m, now.1⟩
      | _ => exact now.elim
    · obtain ⟨m, h⟩ := ih (fun e => no (.inr e)) later
      exact ⟨m, ending_act (fun e => no (.inl e)) h⟩

/-- A receiver that a caller gets on a connection that is up is live exactly if
nobody took the subscription of its type out while the caller waited, if nobody
begins to end that subscription after the caller began to listen. Only a caller
that was about to end it before can do so. -/
theorem listener_live_iff {rest : List Action} (reachable : c.Reachable)
    (begins : c.view n CallerState.listens? = some type)
    (no : ¬ Sometime (BeginsEnding type) (c.act (.run n)) rest)
    (up : (c.actAll (.run n :: rest)).isUp = true)
    (returns : (c.actAll (.run n :: rest)).view n CallerState.listener? = some (type, r)) :
    (Live (c.actAll (.run n :: rest)) type r ↔ ¬ Sometime (Takes type) (c.act (.run n)) rest) ∧
      (Sometime (Takes type) (c.act (.run n)) rest →
        ∃ m, c.view m CallerState.ending? = some type) := by
  obtain ⟨r', waiting, found, next⟩ := waiting_of_listens reachable begins
  have reachable₁ := reachable.act (.run n)
  obtain ⟨s, at_, is_⟩ := view_eq_some.1 returns
  obtain rfl := CallerState.listener?_eq_some.1 is_
  -- The caller is done, with the receiver that it got in the beginning.
  obtain ⟨same, nobody⟩ : r' = r ∧ ∀ m, (c.actAll (.run n :: rest)).view m CallerState.ending? ≠
      some type := by
    rcases waiting_or_returned rest reachable₁ (.inl waiting) no with w | done
    · obtain ⟨s, at', kind⟩ := w.caller
      cases at_.symm.trans at'
      rcases kind with kind | ⟨id, kind⟩ <;> cases kind
    · obtain ⟨result, at', kind⟩ := done.caller
      cases at_.symm.trans at'
      rcases kind with ⟨kind, -⟩ | ⟨e, kind⟩
      · cases kind
        exact ⟨rfl, done.nobody⟩
      · cases kind
  subst same
  obtain ⟨taken, kept⟩ := stream_actAll rest reachable₁ up found
  refine ⟨⟨fun live takes => ?_, fun untaken => ?_⟩, fun takes => ?_⟩
  · obtain ⟨ch, hch, ended⟩ := taken takes
    obtain ⟨ch', hch', open_⟩ := live.isOpen
    cases hch.symm.trans hch'
    rw [ended] at open_
    cases open_
  · -- The receiver began at the end of its channel, which has only grown.
    refine live_of_stream (reachable₁.actAll rest) up nobody (kept untaken) fun ch hch => ?_
    obtain ⟨ch₁, hch₁, -⟩ := reachable₁.streams.isOpen type _ found
    obtain ⟨ch₂, hch₂, -, events, -⟩ := channel_actAll hch₁ rest
    cases hch.symm.trans hch₂
    rw [next ch₁ hch₁, events, List.length_append]
    exact Nat.le_add_right _ _
  · obtain ⟨m, h⟩ := ending_of_takes rest no takes
    refine ⟨m, ending_act ?_ h⟩
    intro e
    obtain ⟨s, at', is_⟩ := view_eq_some.1 begins
    obtain ⟨s', at'', is_'⟩ := view_eq_some.1 e
    cases at'.symm.trans at''
    rw [CallerState.listens?_eq_some.1 is_] at is_'
    cases is_'

/-- A first listener, whose subscription the hub accepts. -/
theorem listener_live_first :
    let accept := Action.receive ⟨⟨⟨2024, 1, 1⟩, 0, 0, 0, 0⟩, 0⟩ (.text "[\"result\",1,true]")
    let c := (start 4 none).actAll [.call (.listen "t")]
    let rest := [.run 0, .run 0, accept, .run 0]
    ¬ Sometime (Takes "t") (c.act (.run 0)) rest ∧ Live (c.actAll (.run 0 :: rest)) "t" ⟨0, 0⟩ := by
  intro accept c rest
  have untaken : ¬ Sometime (Takes "t") (c.act (.run 0)) rest := by decide +kernel
  have reachable : c.Reachable := ⟨4, none, [.call (.listen "t")], rfl⟩
  exact ⟨untaken, (listener_live_iff reachable (by decide +kernel) (by decide +kernel)
    (by decide +kernel) (by decide +kernel)).1.2 untaken⟩

/-- A listener whose stream ends while it waits. The second caller holds the
lock, for another type; the third is about to end the subscription of the type
that the fourth begins to listen to. -/
theorem listener_not_live :
    ¬ ∀ (c : Connection) (n : Nat) (type : String) (r : Receiver) (rest : List Action),
      c.Reachable → c.view n CallerState.listens? = some type →
      ¬ Sometime (BeginsEnding type) (c.act (.run n)) rest →
      (c.actAll (.run n :: rest)).isUp = true →
      (c.actAll (.run n :: rest)).view n CallerState.listener? = some (type, r) →
      Live (c.actAll (.run n :: rest)) type r := by
  intro h
  let accept (text : String) := Action.receive ⟨⟨⟨2024, 1, 1⟩, 0, 0, 0, 0⟩, 0⟩ (.text text)
  let before := [.call (.listen "t"), .run 0, .run 0, .run 0, accept "[\"result\",1,true]", .run 0,
    .call (.listen "u"), .call (.unlisten "t"), .call (.listen "t"), .run 1, .run 1, .run 1, .run 2]
  let rest := [accept "[\"result\",2,true]", .run 1, .run 2, .run 3, .run 2, .run 3,
    accept "[\"result\",4,true]", .run 3]
  have live := h ((start 4 none).actAll before) 3 "t" ⟨0, 0⟩ rest ⟨4, none, before, rfl⟩
    (by decide +kernel) (by decide +kernel) (by decide +kernel) (by decide +kernel)
  obtain ⟨ch, hch, open_⟩ := live.isOpen
  have ended : (((start 4 none).actAll before).actAll
      (.run 3 :: rest)).subscriptions.channels[0]?.map Channel.ended = some true := by
    decide +kernel
  rw [hch, Option.map_some, open_] at ended
  cases ended

end Connection

end HubAutomation
