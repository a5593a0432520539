import HubAutomation.Proofs.Client.ListenerSteps

/-!
# Streams and their channels

Every stream of a connection has an open channel of its own, and every channel
that is still open belongs to a stream. A channel holds the events that were
delivered to it in the order in which they came, and a receiver reads on in that
order.

- `Subscriptions.Sound`: streams and open channels belong together.
- `Connection.delivered`: the event frames that a run brings to a channel.
- `Connection.channel_actAll`: what a channel holds after a run.
-/

namespace HubAutomation

namespace Subscriptions

variable {s s' : Subscriptions} {type : String} {k : Nat}

/-! ### Streams and open channels -/

/-- Streams and open channels belong together. -/
structure Sound (s : Subscriptions) : Prop where
  isOpen : ∀ type k, s.streams.find? type = some k →
    ∃ ch, s.channels[k]? = some ch ∧ ch.ended = false
  injective : ∀ type type' k, s.streams.find? type = some k → s.streams.find? type' = some k →
    type = type'
  current : ∀ k ch, s.channels[k]? = some ch → ch.ended = false →
    ∃ type, s.streams.find? type = some k

/-- A channel that ended has no stream. -/
theorem Sound.no_stream {ch : Channel} (h : s.Sound) (hch : s.channels[k]? = some ch)
    (ended : ch.ended = true) (type : String) : s.streams.find? type ≠ some k := by
  intro found
  obtain ⟨ch', hch', open_⟩ := h.isOpen type k found
  cases hch.symm.trans hch'
  rw [ended] at open_
  cases open_

/-- A client begins without streams. -/
theorem sound_new (capacity : Nat) : (new capacity).Sound := ⟨nofun, nofun, nofun⟩

/-- What holds of channels and streams does not depend on subscriptions. -/
theorem Sound.of_same (h : s.Sound) (channels : s'.channels = s.channels)
    (streams : s'.streams = s.streams) : s'.Sound :=
  ⟨by rw [channels, streams]; exact h.isOpen, by rw [streams]; exact h.injective,
    by rw [channels, streams]; exact h.current⟩

/-- Only one channel is changed. -/
theorem getElem?_modify (s : Subscriptions) (k : Nat) (f : Channel → Channel) (j : Nat) :
    (s.modify k f).channels[j]? =
      if j = k then s.channels[j]?.map f else s.channels[j]? := by
  rw [modify, List.getElem?_modify]
  by_cases e : j = k
  · rw [if_pos e]
    simp [e]
  · rw [if_neg e]
    simp [Ne.symm e]

/-- Changing a channel without ending it changes no stream. -/
theorem Sound.modify (h : s.Sound) (k : Nat) {f : Channel → Channel}
    (keep : ∀ ch, (f ch).ended = ch.ended) : (s.modify k f).Sound where
  isOpen := by
    intro type j hj
    obtain ⟨ch, hch, open_⟩ := h.isOpen type j hj
    rw [getElem?_modify, hch]
    split
    · exact ⟨f ch, rfl, (keep ch).trans open_⟩
    · exact ⟨ch, rfl, open_⟩
  injective := h.injective
  current := by
    intro j ch hch open_
    rw [getElem?_modify] at hch
    split at hch
    · obtain ⟨old, found, rfl⟩ := Option.map_eq_some_iff.1 hch
      exact h.current j old found ((keep old).symm.trans open_)
    · exact h.current j ch hch open_

/-- A channel is opened for a type that has none; the new one has a number that no
stream has. -/
theorem Sound.channelFor (h : s.Sound) (type : String) : (s.channelFor type).1.Sound := by
  unfold Subscriptions.channelFor
  split
  · exact h
  · rename_i absent
    have fresh : ∀ type' j, s.streams.find? type' = some j → j < s.channels.length := by
      intro type' j hj
      obtain ⟨ch, hch, -⟩ := h.isOpen type' j hj
      exact (List.getElem?_eq_some_iff.1 hch).1
    have look := Dict.find?_insert s.streams type s.channels.length
    refine ⟨fun type' j hj => ?_, fun type₁ type₂ j h₁ h₂ => ?_, fun j ch hch open_ => ?_⟩
    · rw [look] at hj
      split at hj
      · cases hj
        exact ⟨.new s.capacity, by simp, rfl⟩
      · obtain ⟨ch, hch, open_⟩ := h.isOpen type' j hj
        exact ⟨ch, by rw [List.getElem?_append_left (fresh type' j hj), hch], open_⟩
    · rw [look] at h₁ h₂
      split at h₁ <;> split at h₂
      · rw [‹type₁ = type›, ‹type₂ = type›]
      · cases h₁
        exact absurd (fresh type₂ _ h₂) (Nat.lt_irrefl _)
      · cases h₂
        exact absurd (fresh type₁ _ h₁) (Nat.lt_irrefl _)
      · exact h.injective type₁ type₂ j h₁ h₂
    · have hch : (s.channels ++ [.new s.capacity])[j]? = some ch := hch
      rw [List.getElem?_append] at hch
      split at hch
      · obtain ⟨type', ht⟩ := h.current j ch hch open_
        refine ⟨type', ?_⟩
        rw [look, if_neg (fun e => ?_), ht]
        rw [e, absent] at ht
        cases ht
      · refine ⟨type, ?_⟩
        rw [look, if_pos rfl]
        rw [List.getElem?_singleton] at hch
        split at hch
        · congr 1
          omega
        · cases hch

/-- Listening to a type opens a receiver on its channel. -/
theorem Sound.stream (h : s.Sound) (type : String) : (s.stream type).1.Sound :=
  (h.channelFor type).modify _ fun _ => rfl

/-- A receiver is on the channel of the stream that it was asked for. -/
theorem find?_stream (s : Subscriptions) (type : String) :
    (s.stream type).1.streams.find? type = some (s.stream type).2.channel := by
  show (s.channelFor type).1.streams.find? type = some (s.channelFor type).2
  unfold Subscriptions.channelFor
  split
  · assumption
  · exact Dict.find?_insert_self _ _ _

/-- A receiver that is dropped leaves the channels in place. -/
theorem Sound.drop (h : s.Sound) (r : Receiver) : (s.drop r).Sound := h.modify _ fun _ => rfl

/-- A stream that ends leaves the other streams with their channels. -/
theorem Sound.endStream (h : s.Sound) (type : String) : (s.endStream type).Sound := by
  unfold Subscriptions.endStream
  split
  case h_2 => exact h
  case h_1 k found =>
    have look := Dict.find?_erase s.streams type
    refine ⟨fun type' j hj => ?_, fun type₁ type₂ j h₁ h₂ => ?_, fun j ch hch open_ => ?_⟩
    · rw [look] at hj
      split at hj
      · cases hj
      · obtain ⟨ch, hch, open_⟩ := h.isOpen type' j hj
        refine ⟨ch, ?_, open_⟩
        -- The channel that ends is of no other stream.
        rw [getElem?_modify, if_neg (fun e => ?_), hch]
        exact ‹type' ≠ type› (h.injective type' type k (e ▸ hj) found)
    · rw [look] at h₁ h₂
      split at h₁
      · cases h₁
      · split at h₂
        · cases h₂
        · exact h.injective type₁ type₂ j h₁ h₂
    · have hch : (s.modify k .finish).channels[j]? = some ch := hch
      rw [getElem?_modify] at hch
      split at hch
      · obtain ⟨ch', -, rfl⟩ := Option.map_eq_some_iff.1 hch
        cases open_
      · obtain ⟨type', ht⟩ := h.current j ch hch open_
        refine ⟨type', ?_⟩
        rw [look, if_neg (fun e => ?_), ht]
        rw [e, found] at ht
        exact ‹j ≠ k› (Option.some.inj ht).symm

/-- Taking a subscription out removes its record and ends its stream. -/
theorem take_eq_some {handle : Option Nat} (h : s.take type = some (s', handle)) :
    s.hub.find? type = some handle ∧
      s' = { s.endStream type with
        hub := s.hub.erase type
        routes := s.routes.filter fun r => r.2 ≠ type } := by
  obtain ⟨recorded, found, h⟩ := Option.map_eq_some_iff.1 h
  cases h
  exact ⟨found, rfl⟩

/-- What is left when a subscription was taken out. -/
theorem Sound.take {handle : Option Nat} (h : s.Sound) (t : s.take type = some (s', handle)) :
    s'.Sound := by
  rw [(take_eq_some t).2]
  exact (h.endStream type).of_same rfl rfl

/-- What is left when a request for a subscription was answered. -/
theorem Sound.answered (h : s.Sound) (id : Nat) (type : String) (r : Receiver)
    (outcome : ClientResult Json) : (s.answered id type r outcome).Sound := by
  unfold Subscriptions.answered
  split
  · exact h.of_same rfl rfl
  · split
    · exact h.of_same rfl rfl
    · exact (h.of_same rfl rfl : (s.unroute id).Sound).drop r

/-- An event that is delivered opens and ends nothing. -/
theorem Sound.dispatch (h : s.Sound) (id : Option Nat) (event : Event Json) :
    (s.dispatch id event).Sound := by
  unfold Subscriptions.dispatch
  split
  · exact h.modify _ fun _ => rfl
  · exact h

/-- After the end of all streams no channel is open. -/
theorem ended_of_close {ch : Channel} (h : s.close.channels[k]? = some ch) : ch.ended = true := by
  rw [close, List.getElem?_map] at h
  obtain ⟨ch, -, rfl⟩ := Option.map_eq_some_iff.1 h
  rfl

/-- After the end of all streams nothing is listed. -/
theorem Sound.close (s : Subscriptions) : s.close.Sound where
  isOpen := nofun
  injective := nofun
  current := by
    intro k ch hch open_
    rw [ended_of_close hch] at open_
    cases open_

/-! ### What channels keep -/

/-- All channels are still there, with their events, and none that ended is open
again. -/
def Keeps (s s' : Subscriptions) : Prop :=
  ∀ (k : Nat) (ch : Channel), s.channels[k]? = some ch → ∃ ch', s'.channels[k]? = some ch' ∧
    ch'.window = ch.window ∧ ch'.events = ch.events ∧ (ch.ended = true → ch'.ended = true)

theorem keeps_refl (s : Subscriptions) : s.Keeps s := fun _ ch h => ⟨ch, h, rfl, rfl, id⟩

/-- What two changes keep is kept by both together. -/
theorem Keeps.trans {s₁ s₂ s₃ : Subscriptions} (h : s₁.Keeps s₂) (h' : s₂.Keeps s₃) :
    s₁.Keeps s₃ := by
  intro k ch hch
  obtain ⟨ch', hch', window, events, ended⟩ := h k ch hch
  obtain ⟨ch'', hch'', window', events', ended'⟩ := h' k ch' hch'
  exact ⟨ch'', hch'', window'.trans window, events'.trans events, ended' ∘ ended⟩

theorem keeps_of_same (channels : s'.channels = s.channels) : s.Keeps s' :=
  fun _ ch h => ⟨ch, by rw [channels, h], rfl, rfl, id⟩

/-- A channel keeps what it had as long as its window and its events stay, and its
end. -/
theorem keeps_modify (s : Subscriptions) (k : Nat) {f : Channel → Channel}
    (window : ∀ ch, (f ch).window = ch.window) (events : ∀ ch, (f ch).events = ch.events)
    (ended : ∀ ch, ch.ended = true → (f ch).ended = true) : s.Keeps (s.modify k f) := by
  intro j ch hch
  rw [getElem?_modify, hch]
  split
  · exact ⟨f ch, rfl, window ch, events ch, ended ch⟩
  · exact ⟨ch, rfl, rfl, rfl, id⟩

/-- Looking a channel up changes no other one. -/
theorem keeps_channelFor (s : Subscriptions) (type : String) : s.Keeps (s.channelFor type).1 := by
  unfold channelFor
  split
  · exact s.keeps_refl
  · intro k ch hch
    refine ⟨ch, ?_, rfl, rfl, id⟩
    exact (List.getElem?_append_left (List.getElem?_eq_some_iff.1 hch).1).trans hch

theorem keeps_stream (s : Subscriptions) (type : String) : s.Keeps (s.stream type).1 :=
  (s.keeps_channelFor type).trans (keeps_modify _ _ (fun _ => rfl) (fun _ => rfl) fun _ h => h)

theorem keeps_drop (s : Subscriptions) (r : Receiver) : s.Keeps (s.drop r) :=
  s.keeps_modify _ (fun _ => rfl) (fun _ => rfl) fun _ h => h

/-- A stream that ends keeps what was sent on it. -/
theorem keeps_endStream (s : Subscriptions) (type : String) : s.Keeps (s.endStream type) := by
  unfold endStream
  split
  · exact s.keeps_modify _ (fun _ => rfl) (fun _ => rfl) fun _ _ => rfl
  · exact s.keeps_refl

/-- A subscription that is taken out keeps what was sent on the other channels. -/
theorem keeps_take {handle : Option Nat} (t : s.take type = some (s', handle)) : s.Keeps s' := by
  rw [(take_eq_some t).2]
  exact (s.keeps_endStream type).trans (keeps_of_same rfl)

/-- An answer to a request for a subscription sends nothing on the channels. -/
theorem keeps_answered (s : Subscriptions) (id : Nat) (type : String) (r : Receiver)
    (outcome : ClientResult Json) : s.Keeps (s.answered id type r outcome) := by
  unfold answered
  split
  · exact keeps_of_same rfl
  · split
    · exact keeps_of_same rfl
    · exact (keeps_of_same rfl : s.Keeps (s.unroute id)).trans (keeps_drop _ r)

/-- The end of all streams keeps what was sent on them. -/
theorem keeps_close (s : Subscriptions) : s.Keeps s.close := by
  intro k ch hch
  refine ⟨ch.finish, ?_, rfl, rfl, fun _ => rfl⟩
  rw [close, List.getElem?_map, hch]
  rfl

/-- An event is added to the channel of the stream that it goes to. -/
theorem getElem?_dispatch (s : Subscriptions) (id : Option Nat) (event : Event Json) (k : Nat) :
    (s.dispatch id event).channels[k]? =
      if s.streams.find? (s.target id event) = some k then
        s.channels[k]?.map fun ch => ch.send event
      else s.channels[k]? := by
  unfold dispatch
  cases s.streams.find? (s.target id event) with
  | none => rw [if_neg nofun]
  | some j =>
    show (s.modify j fun ch => ch.send event).channels[k]? = _
    rw [getElem?_modify]
    by_cases e : k = j
    · rw [if_pos e, if_pos (by rw [e])]
    · rw [if_neg e, if_neg (fun h => e (Option.some.inj h).symm)]

end Subscriptions

namespace Connection

variable {c c' : Connection} {n k : Nat} {type : String}

/-- Who leaves the line for the lock leaves sound streams. -/
theorem LeftWith.sound {s : Subscriptions} (h : s.Sound) (left : LeftWith s c') :
    c'.subscriptions.Sound := by
  rcases left with left | ⟨left, -⟩
  · rwa [left]
  · rw [left]
    exact .close s

/-- Who leaves the line for the lock sends nothing. -/
theorem LeftWith.keeps {s : Subscriptions} (left : LeftWith s c') : s.Keeps c'.subscriptions := by
  rcases left with left | ⟨left, -⟩
  · rw [left]
    exact s.keeps_refl
  · rw [left]
    exact s.keeps_close

/-- What callers do to subscriptions keeps what was sent on channels. -/
theorem SubscriptionChange.keeps {a : Action} {s : Subscriptions}
    (change : SubscriptionChange c a s) : c.subscriptions.Keeps s := by
  cases change with
  | same => exact Subscriptions.keeps_refl _
  | stream eventType => exact Subscriptions.keeps_stream _ eventType
  | route eventType up => exact Subscriptions.keeps_of_same rfl
  | drop receiver => exact Subscriptions.keeps_drop _ receiver
  | take eventType handle takes take => exact Subscriptions.keeps_take take
  | answered n id eventType receiver outcome at_ parked =>
    exact Subscriptions.keeps_answered _ id eventType receiver outcome

/-- Streams and channels fit together after every action. -/
theorem Step.streams {a : Action} (t : Step c a c') (h : c.subscriptions.Sound) :
    c'.subscriptions.Sound := by
  cases t.subscriptions with
  | event frame reading brings subs => exact subs ▸ h.dispatch frame.id frame.event
  | change subscriptions silent change left =>
    refine left.sound ?_
    cases change with
    | same => exact h
    | stream eventType => exact h.stream eventType
    | route eventType up => exact h.of_same rfl rfl
    | drop receiver => exact h.drop receiver
    | take eventType handle takes take => exact h.take take
    | answered n id eventType receiver outcome at_ parked =>
      exact h.answered id eventType receiver outcome

/-- Streams and open channels belong together at every moment of every run. -/
theorem Reachable.streams (h : c.Reachable) : c.subscriptions.Sound :=
  h.induction (P := fun c => c.subscriptions.Sound)
    (fun capacity _ => Subscriptions.sound_new capacity)
    fun c a _ h => (c.act_step a).streams h

/-! ### Deliveries -/

/-- The event frame that an action brings to a channel. -/
def delivery (k : Nat) (c : Connection) (a : Action) : List EventFrame :=
  match a.frame? with
  | some (.event frame) =>
    if c.reading = true ∧
        c.subscriptions.streams.find? (c.subscriptions.target frame.id frame.event) = some k then
      [frame]
    else []
  | _ => []

/-- The event frames that a run brings to a channel. -/
def delivered (k : Nat) : Connection → List Action → List EventFrame
  | _, [] => []
  | c, a :: rest => delivery k c a ++ delivered k (c.act a) rest

/-- An event frame is delivered on a channel if its stream is the one that it is meant
for, as long as the hub is listened to. -/
theorem delivery_of_frame {a : Action} {frame : EventFrame}
    (brings : a.frame? = some (.event frame)) :
    delivery k c a =
      if c.reading = true ∧
          c.subscriptions.streams.find? (c.subscriptions.target frame.id frame.event) = some k then
        [frame]
      else [] := by
  rw [delivery, brings]

/-- Nothing is delivered by an action that brings no event. -/
theorem delivery_of_silent {a : Action}
    (silent : ∀ frame, a.frame? = some (.event frame) → c.reading = false) :
    delivery k c a = [] := by
  unfold delivery
  split
  · rename_i frame brings
    rw [silent frame brings, if_neg (by simp)]
  · rfl

/-- What a channel holds after an action: what it held, and what was delivered. -/
theorem Step.channel {a : Action} {ch : Channel} (step : Step c a c')
    (hch : c.subscriptions.channels[k]? = some ch) :
    ∃ ch', c'.subscriptions.channels[k]? = some ch' ∧ ch'.window = ch.window ∧
      ch'.events = ch.events ++ (delivery k c a).map EventFrame.event ∧
        (ch.ended = true → ch'.ended = true) := by
  cases step.subscriptions with
  | change subscriptions silent change left =>
    -- All steps but the arrival of an event keep the events of every channel.
    have keeps : c.subscriptions.Keeps c'.subscriptions := change.keeps.trans left.keeps
    obtain ⟨ch', hch', window, events, ended⟩ := keeps k ch hch
    rw [delivery_of_silent silent, List.map_nil, List.append_nil]
    exact ⟨ch', hch', window, events, ended⟩
  | event frame reading brings subs =>
    rw [subs, Subscriptions.getElem?_dispatch, delivery_of_frame brings, hch]
    by_cases goes :
        c.subscriptions.streams.find? (c.subscriptions.target frame.id frame.event) = some k
    · rw [if_pos goes, if_pos ⟨reading, goes⟩]
      exact ⟨ch.send frame.event, rfl, rfl, rfl, id⟩
    · rw [if_neg goes, if_neg (fun h => goes h.2)]
      exact ⟨ch, rfl, rfl, (List.append_nil _).symm, id⟩

/-- What a channel holds after a run: what it held, and what was delivered. -/
theorem channel_actAll {ch : Channel} (hch : c.subscriptions.channels[k]? = some ch)
    (actions : List Action) :
    ∃ ch', (c.actAll actions).subscriptions.channels[k]? = some ch' ∧ ch'.window = ch.window ∧
      ch'.events = ch.events ++ (delivered k c actions).map EventFrame.event ∧
        (ch.ended = true → ch'.ended = true) := by
  induction actions generalizing c ch with
  | nil => exact ⟨ch, hch, rfl, (List.append_nil _).symm, id⟩
  | cons a rest ih =>
    obtain ⟨ch₁, hch₁, window₁, events₁, ended₁⟩ := (c.act_step a).channel hch
    obtain ⟨ch₂, hch₂, window₂, events₂, ended₂⟩ := ih hch₁
    refine ⟨ch₂, hch₂, window₂.trans window₁, ?_, ended₂ ∘ ended₁⟩
    rw [events₂, events₁, List.append_assoc, ← List.map_append]
    rfl

/-- Nothing is delivered to a channel that ended. -/
theorem delivered_of_ended {ch : Channel} (h : c.Reachable)
    (hch : c.subscriptions.channels[k]? = some ch) (ended : ch.ended = true)
    (actions : List Action) : delivered k c actions = [] := by
  -- The channel ended for good, and what ended has no stream to come by.
  induction actions generalizing c ch with
  | nil => rfl
  | cons a rest ih =>
    obtain ⟨ch', hch', -, -, ended'⟩ := (c.act_step a).channel hch
    show delivery k c a ++ delivered k (c.act a) rest = []
    rw [ih (h.act a) hch' (ended' ended), List.append_nil]
    unfold delivery
    split
    · exact if_neg fun goes => h.streams.no_stream hch ended _ goes.2
    · rfl

/-! ### The end of all streams -/

/-- All channels have ended, and no routes are left. -/
structure AllEnded (s : Subscriptions) : Prop where
  ended : ∀ (k : Nat) (ch : Channel), s.channels[k]? = some ch → ch.ended = true
  routes : s.routes = []

/-- After the end of all streams each of them has ended. -/
theorem allEnded_close (s : Subscriptions) : AllEnded s.close :=
  ⟨fun _ _ hch => Subscriptions.ended_of_close hch, rfl⟩

/-- A connection that is let go of stays up, or all streams have ended. -/
theorem letGo_up_or_ended (c : Connection) (connected : c.connected = true) :
    c.letGo.isUp = true ∨ AllEnded c.letGo.subscriptions := by
  cases held : c.isHeld with
  | true =>
    refine .inl ?_
    show (c.connected && c.isHeld) = true
    rw [connected, held]
    rfl
  | false =>
    refine .inr ?_
    show AllEnded (if c.isHeld then c.subscriptions else c.subscriptions.close)
    rw [held, if_neg Bool.false_ne_true]
    exact allEnded_close _

/-- A connection that was closed has ended all streams. -/
theorem allEnded_closed (c : Connection) (n : Nat) : AllEnded (c.closed n).subscriptions := by
  rcases leftWith_finish { c.shutDown "closed by client" with reading := false } n
    (.ok (.json .null)) with h | ⟨h, -⟩
  · exact h ▸ allEnded_close _
  · exact h ▸ allEnded_close _

/-- A turn that leaves its caller open leaves the connection up. -/
theorem isUp_setCaller {s s' : CallerState} (at_ : c.callers[n]? = some s)
    (callers : c'.callers = c.callers.set n s') (open_ : s'.isDone = false)
    (connected : c'.connected = true) : c'.isUp = true := by
  refine isUp_iff.2 ⟨connected, isHeld_of_caller (n := n) (s := s') ?_ open_⟩
  rw [callers, getElem?_set_caller at_, if_pos rfl]

/-- A turn takes a connection down only by ending all streams. -/
theorem Turn.up_or_ended (t : Turn c n c') (up : c.connected = true) :
    c'.isUp = true ∨ AllEnded c'.subscriptions := by
  cases t with
  | command at_ connected => exact .inl (isUp_setCaller at_ rfl rfl up)
  | commandLost at_ down => exact letGo_up_or_ended _ up
  | listen at_ => exact .inl (isUp_setCaller at_ rfl rfl up)
  | unlisten at_ => exact .inl (isUp_setCaller at_ rfl rfl up)
  | close at_ connected => exact .inl (isUp_setCaller at_ rfl rfl up)
  | aside at_ kind => exact letGo_up_or_ended _ up
  | join at_ holds recorded => exact letGo_up_or_ended _ up
  | subscribe at_ holds unrecorded connected => exact .inl (isUp_setCaller at_ rfl rfl up)
  | subscribeLost at_ holds unrecorded down => exact letGo_up_or_ended _ up
  | untaken at_ holds untaken => exact letGo_up_or_ended _ up
  | taken at_ holds take untold => exact letGo_up_or_ended _ up
  | unsubscribe at_ holds take connected => exact .inl (isUp_setCaller at_ rfl rfl up)
  | stranded at_ stopped => exact letGo_up_or_ended _ up
  | queued at_ running place => exact .inl (isUp_setCaller at_ rfl rfl up)
  | answered at_ parked => exact letGo_up_or_ended _ up
  | closed at_ stopped => exact .inr (allEnded_closed _ _)
  | farewell at_ running place => exact .inr (allEnded_closed _ _)

/-- When the connection goes down, all streams end. -/
theorem Step.up_or_ended {a : Action} (step : Step c a c') (up : c.isUp = true) :
    c'.isUp = true ∨ AllEnded c'.subscriptions := by
  cases step with
  | turn turn => exact turn.up_or_ended (isUp_iff.1 up).1
  | @call request held =>
    refine .inl (isUp_iff.2 ⟨(isUp_iff.1 up).1, ?_⟩)
    have old := held
    rw [Connection.isHeld, Bool.or_eq_true] at old ⊢
    refine old.imp_right fun old => ?_
    show List.any (c.callers ++ [CallerState.ready request]) _ = true
    rw [List.any_append, old, Bool.true_or]
  | unwritten busy broken held => exact .inr (allEnded_close _)
  | farewell reading silent => exact .inr (allEnded_close _)
  | @frame _ frame reading brings =>
    refine .inl ?_
    rwa [Connection.isUp, handle_connected, Connection.isHeld, handle_held, handle_callers]
  | release => exact letGo_up_or_ended _ (isUp_iff.1 up).1
  | _ => exact .inl up

end Connection

end HubAutomation
