import HubAutomation.Proofs.Client.Correlation
import HubAutomation.Proofs.Client.LockOrder
import HubAutomation.Proofs.Client.Readings
import Mathlib.Data.List.Induction

/-!
# After the end of a connection

A connection that went down stays so. The streams that there were have ended,
and their receivers get what is kept, and then the end. A caller that begins to
listen after that is refused, unless the subscription of its type is still
recorded when it has the lock: then it gets a receiver on a stream that nobody
ends any more.

- `Connection.Joins`: a caller finds the subscription of its type recorded.
- `Connection.LateListen`: how far a caller is that began to listen too late.
- `Connection.Reachable.receiver_exists`: receivers are on channels.
- `Connection.done_of_quiet`: nobody waits for ever.
- `Connection.after_shutdown`: what is left of a connection.
-/

namespace HubAutomation

namespace Connection

variable {c c' : Connection} {n m k : Nat} {type : String} {r : Receiver} {a : Action}

/-! ### Streams that ended -/

/-- All channels that there were have ended once the connection is not up. -/
theorem ended_of_down {ch : Channel} (actions : List Action) (up : c.isUp = true)
    (down : (c.actAll actions).isUp = false) (hch : c.subscriptions.channels[k]? = some ch) :
    ∃ ch', (c.actAll actions).subscriptions.channels[k]? = some ch' ∧ ch'.ended = true := by
  induction actions generalizing c ch with
  | nil =>
    rw [actAll_nil, up] at down
    cases down
  | cons a rest ih =>
    obtain ⟨ch₁, hch₁, -⟩ := (c.act_step a).channel hch
    rcases (c.act_step a).up_or_ended up with up' | ended
    · exact ih up' down hch₁
    · obtain ⟨ch₂, hch₂, -, -, ended₂⟩ := channel_actAll hch₁ rest
      exact ⟨ch₂, hch₂, ended₂ (ended.ended k ch₁ hch₁)⟩

theorem receiver?_eq_none {s : CallerState} (out : s.inLine = false) (gets : s.listener? = none) :
    s.receiver? = none := by
  unfold CallerState.receiver?
  split
  · cases out
  · cases out
  · cases out
  · cases gets
  · rfl

/-- The receiver of a caller is on a channel. -/
theorem Reachable.receiver_exists (h : c.Reachable)
    (has : c.view n CallerState.receiver? = some r) :
    ∃ ch, c.subscriptions.channels[r.channel]? = some ch := by
  refine h.induction (P := fun c => ∀ n r, c.view n CallerState.receiver? = some r →
    ∃ ch, c.subscriptions.channels[r.channel]? = some ch)
    (fun _ _ => nofun) (fun c a reachable h n r has => ?_) n r has
  have old : ∀ n, c.view n CallerState.receiver? = some r →
      ∃ ch, (c.act a).subscriptions.channels[r.channel]? = some ch := by
    intro n has
    obtain ⟨ch, hch⟩ := h n r has
    obtain ⟨ch', hch', -⟩ := (c.act_step a).channel hch
    exact ⟨ch', hch'⟩
  rcases (c.act_step a).listeners with ⟨m, rfl, t⟩ | e
  · -- Whoever has a receiver after its turn had it before, or begins to listen.
    have turn : ∀ {s s' : CallerState}, c.callers[m]? = some s →
        (c.act (.run m)).callers = c.callers.set m s' →
        (s'.receiver? = none ∨ s'.receiver? = s.receiver?) →
        ∃ ch, (c.act (.run m)).subscriptions.channels[r.channel]? = some ch := by
      intro s s' at_ callers same
      rw [view_set _ at_ callers] at has
      split at has
      · rcases same with same | same
        · rw [same] at has
          cases has
        · exact old m (view_eq_some.2 ⟨s, at_, same ▸ has⟩)
      · exact old n has
    cases t with
    | aside s s' at_ open_ callers before after asks gets lock left =>
      exact turn at_ callers (.inl (receiver?_eq_none after gets))
    | listen eventType at_ callers lock subs =>
      rw [view_set _ at_ callers] at has
      split at has
      · cases has
        have found := Subscriptions.find?_stream c.subscriptions eventType
        obtain ⟨ch, hch, -⟩ := (reachable.streams.stream eventType).isOpen _ _ found
        exact ⟨ch, subs ▸ hch⟩
      · exact old n has
    | unlisten eventType at_ callers lock subs => exact turn at_ callers (.inl rfl)
    | join eventType receiver at_ holds recorded callers lock left =>
      exact turn at_ callers (.inr rfl)
    | subscribe eventType receiver at_ holds unrecorded connected callers commands lock subs =>
      exact turn at_ callers (.inr rfl)
    | lost s eventType receiver reason at_ asked down callers lock left =>
      exact turn at_ callers (.inl rfl)
    | untaken eventType at_ holds unrecorded callers lock left => exact turn at_ callers (.inl rfl)
    | taken eventType subscriptions handle s' at_ holds take callers after gets lock left =>
      exact turn at_ callers (.inl (receiver?_eq_none after gets))
    | queued id command eventType receiver at_ callers lock subs => exact turn at_ callers (.inr rfl)
    | answered id eventType receiver outcome at_ parked callers lock left =>
      refine turn at_ callers ?_
      cases outcome with
      | ok value => exact .inr rfl
      | error e =>
        rw [Purpose.answer]
        split
        · exact .inr rfl
        · exact .inl rfl
  · exact old n (e.view (fun _ => rfl) has)

/-! ### Callers that begin to listen too late -/

/-- A caller that has the lock finds the subscription of its type recorded. -/
def Joins (n : Nat) (type : String) (c : Connection) : Action → Prop
  | .run m => m = n ∧ c.view n CallerState.asks? = some type ∧ c.lock.holder = some n ∧
      c.subscriptions.isSubscribed type = true
  | _ => False

instance (n : Nat) (type : String) (c : Connection) : DecidablePred (Joins n type c)
  | .run m => inferInstanceAs (Decidable (m = n ∧ c.view n CallerState.asks? = some type ∧
      c.lock.holder = some n ∧ c.subscriptions.isSubscribed type = true))
  | .call _ | .write | .receive _ _ | .release | .breakWrites _ => .isFalse id

/-- How far a caller is after a run from a state of a connection that is down, in
which it was about to listen. -/
inductive LateListen (c : Connection) (rest : List Action) (n : Nat) (type : String) : Prop where
  | ready (at_ : (c.actAll rest).callers[n]? = some (.ready (.listen type)))
      (out : ¬ Sometime (Joins n type) c rest)
  | waiting (r : Receiver) (at_ : (c.actAll rest).callers[n]? = some (.locking (.listen type r)))
      (out : ¬ Sometime (Joins n type) c rest)
  | refused
      (at_ : (c.actAll rest).callers[n]? =
        some (.done (.error (.connectionLost "client is closed"))))
      (out : ¬ Sometime (Joins n type) c rest)
  | joined (r : Receiver)
      (at_ : (c.actAll rest).callers[n]? = some (.done (.ok (.listener type r))))
      (joins : Sometime (Joins n type) c rest)

/-- The turn of a caller that waits for the lock to listen, on a connection that
is down. -/
theorem late_turn (down : c.connected = false)
    (at_ : c.callers[n]? = some (.locking (.listen type r))) :
    (c.act (.run n)).callers[n]? = some
      (if c.lock.holder = some n then
        if c.subscriptions.isSubscribed type then .done (.ok (.listener type r))
        else .done (.error (.connectionLost "client is closed"))
      else .locking (.listen type r)) := by
  rw [run_locking at_]
  by_cases holds : c.lock.holder = some n
  · rw [if_pos holds, if_pos holds, locked]
    by_cases recorded : c.subscriptions.isSubscribed type = true
    · rw [if_pos recorded, if_pos recorded]
      show (c.callers.set n _)[n]? = _
      rw [getElem?_set_caller at_, if_pos rfl]
    · rw [if_neg recorded, if_neg recorded, startCommand,
        if_neg (by rw [down]; exact Bool.false_ne_true)]
      show (c.callers.set n _)[n]? = _
      rw [getElem?_set_caller at_, if_pos rfl]
      rfl
  · rw [if_neg holds, if_neg holds, at_]

theorem LateListen.act {rest : List Action} (h : LateListen c rest n type)
    (down : (c.actAll rest).connected = false) (a : Action) : LateListen c (rest ++ [a]) n type := by
  have concat : c.actAll (rest ++ [a]) = (c.actAll rest).act a := actAll_append c rest [a]
  have joins := sometime_concat (Joins n type) c rest a
  by_cases own : a = .run n
  case neg =>
    -- Other actions do not move the caller, and it does not join by them.
    have not_ : ¬ Joins n type (c.actAll rest) a := by
      cases a with
      | run m => exact fun h => own (by rw [h.1])
      | _ => exact id
    have same : Sometime (Joins n type) c (rest ++ [a]) ↔ Sometime (Joins n type) c rest :=
      joins.trans (or_iff_left not_)
    cases h with
    | ready at_ out => exact .ready (concat ▸ caller_act own at_) (mt same.1 out)
    | waiting r at_ out => exact .waiting r (concat ▸ caller_act own at_) (mt same.1 out)
    | refused at_ out => exact .refused (concat ▸ caller_act own at_) (mt same.1 out)
    | joined r at_ was => exact .joined r (concat ▸ caller_act own at_) (same.2 was)
  case pos =>
    subst own
    cases h with
    | ready at_ out =>
      have not_ : ¬ Joins n type (c.actAll rest) (.run n) := by
        rintro ⟨-, asks, -⟩
        obtain ⟨s, at', asks⟩ := view_eq_some.1 asks
        cases at_.symm.trans at'
        cases asks
      refine .waiting ((c.actAll rest).subscriptions.stream type).2 ?_
        (mt joins.1 (not_or.2 ⟨out, not_⟩))
      rw [concat, run_ready at_]
      show ((c.actAll rest).callers.set n
        (.locking (.listen type ((c.actAll rest).subscriptions.stream type).2)))[n]? = _
      rw [getElem?_set_caller at_, if_pos rfl]
    | waiting r at_ out =>
      have turn := late_turn down at_
      have joins_ : Joins n type (c.actAll rest) (.run n) ↔
          (c.actAll rest).lock.holder = some n ∧
            (c.actAll rest).subscriptions.isSubscribed type = true :=
        ⟨fun h => h.2.2, fun h => ⟨rfl, view_eq_some.2 ⟨_, at_, rfl⟩, h⟩⟩
      rw [joins_] at joins
      by_cases holds : (c.actAll rest).lock.holder = some n
      · rw [if_pos holds] at turn
        by_cases recorded : (c.actAll rest).subscriptions.isSubscribed type = true
        · rw [if_pos recorded] at turn
          exact .joined r (concat ▸ turn) (joins.2 (.inr ⟨holds, recorded⟩))
        · rw [if_neg recorded] at turn
          exact .refused (concat ▸ turn) (mt joins.1 (not_or.2 ⟨out, fun h => recorded h.2⟩))
      · rw [if_neg holds] at turn
        exact .waiting r (concat ▸ turn) (mt joins.1 (not_or.2 ⟨out, fun h => holds h.1⟩))
    | refused at_ out =>
      refine .refused (concat ▸ done_act _ at_) (mt joins.1 (not_or.2 ⟨out, ?_⟩))
      rintro ⟨-, asks, -⟩
      obtain ⟨s, at', asks⟩ := view_eq_some.1 asks
      cases at_.symm.trans at'
      cases asks
    | joined r at_ was => exact .joined r (concat ▸ done_act _ at_) (joins.2 (.inl was))

theorem lateListen_actAll (down : c.connected = false)
    (begins : c.view n CallerState.listens? = some type) (rest : List Action) :
    LateListen c rest n type := by
  induction rest using List.reverseRecOn with
  | nil =>
    obtain ⟨s, at_, is_⟩ := view_eq_some.1 begins
    obtain rfl := CallerState.listens?_eq_some.1 is_
    exact .ready at_ id
  | append_singleton rest a ih => exact ih.act (connected_actAll c rest down) a

/-! ### Nobody waits for ever -/

/-- A caller with a command under way on a connection that is down has what it
waits for once nothing is written any more. -/
theorem canRun_of_command {s : CallerState} {id : Nat} (sound : c.Correlated)
    (down : c.connected = false) (still : c.canWrite = false) (at_ : c.callers[n]? = some s)
    (under : s.id? = some id) : c.canRun n = true := by
  cases s with
  | sending i command purpose =>
    simp only [canRun, at_, isStopped_of_down down still, Bool.true_or]
  | awaiting i purpose =>
    cases under
    rcases sound.known n id ((commandOf_of_caller at_).trans rfl) with waits | ⟨outcome, parked⟩
    · rw [sound.down down] at waits
      exact absurd waits List.not_mem_nil
    · simp only [canRun, at_, List.any_eq_true]
      exact ⟨_, parked, by simp⟩
  | ready request => cases under
  | locking purpose => cases under
  | closing => cases under
  | done result => cases under

/-- On a connection that is down, all callers are done when nobody has anything
to do. -/
theorem done_of_quiet {s : CallerState} (sound : c.Correlated) (line : c.InLine)
    (down : c.connected = false) (still : c.canWrite = false) (quiet : ∀ m, c.canRun m = false)
    (at_ : c.callers[n]? = some s) : s.isDone = true := by
  -- Whoever is first in line has what it waits for.
  have nobody : ∀ m, m ∉ c.lock.line := by
    cases held : c.lock.holder with
    | none =>
      intro m hm
      rw [Lock.line_of_free line.idle held] at hm
      exact List.not_mem_nil hm
    | some i =>
      exfalso
      have first : i ∈ c.lock.line := by
        rw [Lock.line_release held]
        exact List.mem_cons_self
      obtain ⟨s, at_, inside⟩ := (line.mem_iff i).1 first
      refine Bool.eq_false_iff.1 (quiet i) ?_
      cases s with
      | locking purpose => simp only [canRun, at_, held, decide_true]
      | sending id command purpose => exact canRun_of_command sound down still at_ rfl
      | awaiting id purpose => exact canRun_of_command sound down still at_ rfl
      | ready request => cases inside
      | closing => cases inside
      | done result => cases inside
  have stuck := Bool.eq_false_iff.1 (quiet n)
  cases s with
  | done result => rfl
  | ready request => exact absurd (by simp only [canRun, at_]) stuck
  | locking purpose => exact absurd ((line.mem_iff n).2 ⟨_, at_, rfl⟩) (nobody n)
  | sending id command purpose => exact absurd (canRun_of_command sound down still at_ rfl) stuck
  | awaiting id purpose => exact absurd (canRun_of_command sound down still at_ rfl) stuck
  | closing =>
    refine absurd ?_ stuck
    simp only [canRun, at_, isStopped_of_down down still, Bool.true_or]

/-! ### What is left -/

/-- What is left of a connection that was up in `c` and is down in `d`, at every
moment after that. It stays down. A caller that begins to listen is refused
exactly if it does not find the subscription of its type recorded when it has
the lock. Every receiver that a caller had in `c` gives the events, or the state
changes, that are kept for it, and then the end. Only streams that were opened
since have not ended. When nobody has anything to do, all callers are done. -/
theorem after_shutdown (reachable : c.Reachable) (up : c.isUp = true) (before : List Action)
    (down : (c.actAll before).connected = false) :
    let d := c.actAll before
    (∀ rest, (d.actAll rest).connected = false) ∧
    (∀ n type rest result, d.view n CallerState.listens? = some type →
      (d.actAll rest).callers[n]? = some (.done result) →
      (result = .error (.connectionLost "client is closed") ↔ ¬ Sometime (Joins n type) d rest)) ∧
    (∀ n r rest, c.view n CallerState.receiver? = some r →
      ∃ ch, (d.actAll rest).subscriptions.channels[r.channel]? = some ch ∧ ch.ended = true ∧
        ∀ next moves,
          (follow Subscriptions.receiveKept (d.actAll rest) { r with next } moves).1 =
              thenEnd (ch.kept next) (Move.reads moves) ∧
            ∀ stamp, (follow (Subscriptions.receiveChange stamp) (d.actAll rest)
                { r with next } moves).1 =
              thenEnd ((ch.kept next).filterMap fun e => (e.typed stamp).toOption)
                (Move.reads moves)) ∧
    (∀ rest k ch, (d.actAll rest).subscriptions.channels[k]? = some ch → ch.ended = false →
      c.subscriptions.channels.length ≤ k ∧
        ∃ type, (d.actAll rest).subscriptions.streams.find? type = some k) ∧
    (∀ rest, (d.actAll rest).canWrite = false → (∀ m, (d.actAll rest).canRun m = false) →
      ∀ s ∈ (d.actAll rest).callers, s.isDone = true) := by
  intro d
  have reachable_d : ∀ rest, (d.actAll rest).Reachable := fun rest =>
    (reachable.actAll before).actAll rest
  have down_ : ∀ rest, (d.actAll rest).connected = false := fun rest => connected_actAll d rest down
  -- What was there in `c` has ended.
  have ended : ∀ (rest : List Action) (k : Nat) (ch : Channel),
      c.subscriptions.channels[k]? = some ch → ∃ ch' : Channel,
        (d.actAll rest).subscriptions.channels[k]? = some ch' ∧ ch'.ended = true := by
    intro rest k ch hch
    have notUp : (c.actAll (before ++ rest)).isUp = false := by
      rw [actAll_append]
      refine Bool.eq_false_iff.2 fun h => ?_
      exact Bool.eq_false_iff.1 (down_ rest) (isUp_iff.1 h).1
    have h := ended_of_down (before ++ rest) up notUp hch
    rwa [actAll_append] at h
  refine ⟨down_, fun n type rest result begins at_ => ?_, fun n r rest has => ?_,
    fun rest k ch hch open_ => ⟨?_, (reachable_d rest).streams.current k ch hch open_⟩,
    fun rest still quiet s hs => ?_⟩
  · cases lateListen_actAll down begins rest with
    | ready was out => cases at_.symm.trans was
    | waiting r was out => cases at_.symm.trans was
    | refused was out =>
      cases at_.symm.trans was
      exact ⟨fun _ => out, fun _ => rfl⟩
    | joined r was joins =>
      cases at_.symm.trans was
      exact ⟨nofun, fun out => absurd joins out⟩
  · obtain ⟨ch₀, hch₀⟩ := reachable.receiver_exists has
    obtain ⟨ch, hch, ended_⟩ := ended rest r.channel ch₀ hch₀
    refine ⟨ch, hch, ended_, fun next moves => ⟨?_, fun stamp => ?_⟩⟩
    · have all := follow_ended (r := { r with next }) Subscriptions.readsOut_receiveKept
        (reachable_d rest) hch ended_ moves
      rwa [List.filterMap_some] at all
    · exact follow_ended (r := { r with next }) (Subscriptions.readsOut_receiveChange stamp)
        (reachable_d rest) hch ended_ moves
  · by_contra old
    obtain ⟨ch', hch', ended_⟩ := ended rest k _ (List.getElem?_eq_getElem (Nat.lt_of_not_le old))
    cases hch.symm.trans hch'
    rw [ended_] at open_
    cases open_
  · obtain ⟨n, at_⟩ := List.mem_iff_getElem?.1 hs
    exact done_of_quiet (reachable_d rest).correlated (reachable_d rest).inLine (down_ rest) still
      quiet at_

/-- The hub ends a connection on which someone listens. -/
theorem after_shutdown_listening :
    let text (s : String) := Action.receive ⟨⟨⟨2024, 1, 1⟩, 0, 0, 0, 0⟩, 0⟩ (.text s)
    let stop := Action.receive ⟨⟨⟨2024, 1, 1⟩, 0, 0, 0, 0⟩, 0⟩ .ended
    let c := (start 4 none).actAll [.call (.listen "t"), .run 0, .run 0, .run 0,
      text "[\"result\",1,true]", .run 0]
    c.isUp = true ∧ c.view 0 CallerState.receiver? = some ⟨0, 0⟩ ∧
      ∀ rest, ∃ ch, ((c.actAll [stop]).actAll rest).subscriptions.channels[0]? = some ch ∧
        ch.ended = true := by
  intro text stop c
  have reachable : c.Reachable := ⟨4, none, _, rfl⟩
  have up : c.isUp = true := by decide +kernel
  have has : c.view 0 CallerState.receiver? = some ⟨0, 0⟩ := by decide +kernel
  refine ⟨up, has, fun rest => ?_⟩
  obtain ⟨ch, hch, ended, -⟩ :=
    (after_shutdown reachable up [stop] (by decide +kernel)).2.2.1 0 ⟨0, 0⟩ rest has
  exact ⟨ch, hch, ended⟩

/-- A caller that begins to listen too late and is not refused: the subscription
of its type was recorded before the hub ended the connection. -/
theorem late_listener_not_refused :
    ¬ ∀ (c : Connection) (n : Nat) (type : String) (rest : List Action)
      (result : ClientResult CallValue), c.Reachable → c.connected = false →
      c.view n CallerState.listens? = some type →
      (c.actAll rest).callers[n]? = some (.done result) →
      ∃ reason, result = .error (.connectionLost reason) := by
  intro h
  let text (s : String) := Action.receive ⟨⟨⟨2024, 1, 1⟩, 0, 0, 0, 0⟩, 0⟩ (.text s)
  let before := [.call (.listen "t"), .run 0, .run 0, .run 0, text "[\"result\",1,true]", .run 0,
    .receive ⟨⟨⟨2024, 1, 1⟩, 0, 0, 0, 0⟩, 0⟩ (.close none), .call (.listen "t")]
  have gets : (((start 4 none).actAll before).actAll [.run 1, .run 1]).view 1
      CallerState.listener? = some ("t", ⟨1, 0⟩) := by decide +kernel
  obtain ⟨s, at_, is_⟩ := view_eq_some.1 gets
  obtain rfl := CallerState.listener?_eq_some.1 is_
  obtain ⟨reason, e⟩ := h ((start 4 none).actAll before) 1 "t" [.run 1, .run 1] _
    ⟨4, none, before, rfl⟩ (by decide +kernel) (by decide +kernel) at_
  cases e

end Connection

end HubAutomation
