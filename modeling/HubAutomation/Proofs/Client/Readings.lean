import HubAutomation.Proofs.Client.Streams

/-!
# Readings of a receiver

A receiver reads while its connection goes on. As long as it does not fall
behind, it gets the events of its channel in the order in which they were
delivered, each of them once. On a channel that ended it gets what is kept of
the rest, and the end after that; this is so for every way of reading.

- `Connection.Move`: an action of the connection, or a reading.
- `Connection.follow`: what a receiver gets, and how far it has read then.
- `Connection.follow_events`: events come once and in order.
- `Subscriptions.ReadsOut`: a way of reading that ends with its channel.
- `Connection.follow_ended`: what is read on a channel that ended.
-/

namespace HubAutomation

/-- The event that was received. -/
def Received.event? {α : Type} : Received α → Option (Event α)
  | .event e => some e
  | .nothingYet | .ended | .lagged _ => none

namespace Channel

variable {ch : Channel} {next : Nat}

/-- What is kept of the events that a receiver has not read, when it has read
those before `next`. -/
def kept (ch : Channel) (next : Nat) : List (Event Json) := ch.events.drop (max next ch.oldest)

theorem kept_of_le (h : ch.oldest ≤ next) : ch.kept next = ch.events.drop next := by
  rw [kept, Nat.max_eq_left h]

/-- A reader gets the oldest event that is kept, or hears that there is none. -/
theorem receiveKept_eq (ch : Channel) (next : Nat) :
    ch.receiveKept next =
      match ch.events[max next ch.oldest]? with
      | some event => (.event event, max next ch.oldest + 1)
      | none => (if ch.ended then .ended else .nothingYet, max next ch.oldest) := by
  have notBehind : ¬ max next ch.oldest < ch.oldest := Nat.not_lt.2 (Nat.le_max_right _ _)
  exact if_neg notBehind

theorem lt_of_kept_cons {event : Event Json} {rest : List (Event Json)}
    (h : ch.kept next = event :: rest) : max next ch.oldest < ch.events.length := by
  refine Nat.lt_of_not_le fun out => ?_
  rw [kept, List.drop_eq_nil_of_le out] at h
  cases h

/-- What a reading gives is the first of what is kept, and the rest is left. -/
theorem receiveKept_cons {event : Event Json} {rest : List (Event Json)}
    (h : ch.kept next = event :: rest) :
    (ch.receiveKept next).1 = .event event ∧ ch.kept (ch.receiveKept next).2 = rest ∧
      (ch.receiveKept next).2 ≤ ch.events.length := by
  have lt := lt_of_kept_cons h
  rw [kept, List.drop_eq_getElem_cons lt] at h
  obtain ⟨first, after⟩ := List.cons.inj h
  rw [receiveKept_eq, List.getElem?_eq_getElem lt, first]
  refine ⟨rfl, ?_, lt⟩
  rw [kept_of_le (Nat.le_succ_of_le (Nat.le_max_right _ _))]
  exact after

/-- Where nothing is kept, there is nothing to read. -/
theorem receiveKept_nil (h : ch.kept next = []) :
    ch.receiveKept next = (if ch.ended then .ended else .nothingYet, max next ch.oldest) := by
  rw [receiveKept_eq, List.getElem?_eq_none (List.drop_eq_nil_iff.1 h)]

theorem kept_receiveKept_nil (h : ch.kept next = []) : ch.kept (ch.receiveKept next).2 = [] := by
  rw [receiveKept_nil h, kept, Nat.max_eq_left (Nat.le_max_right _ _)]
  exact h

end Channel

namespace Subscriptions

variable {s : Subscriptions} {r : Receiver} {ch : Channel}

theorem channelOf_eq (hch : s.channels[r.channel]? = some ch) : s.channelOf r = ch := by
  rw [channelOf, hch]
  rfl

/-- A way of reading gives, of the events that are kept on a channel that ended,
one after another those that it makes something of, and the end after that. -/
def ReadsOut {α : Type} (read : Subscriptions → Receiver → Received α × Receiver)
    (make : Event Json → Option (Event α)) : Prop :=
  ∀ (s : Subscriptions) (r : Receiver) (ch : Channel), s.channels[r.channel]? = some ch →
    ch.ended = true →
      (read s r).1 = (((ch.kept r.next).filterMap make)[0]?).elim .ended .event ∧
      (read s r).2.channel = r.channel ∧
      (ch.kept (read s r).2.next).filterMap make = ((ch.kept r.next).filterMap make).tail

/-- Reading on, one gets all that is kept, in its order. -/
theorem readsOut_receiveKept : ReadsOut receiveKept some := by
  intro s r ch hch ended
  have read : s.receiveKept r =
      ((ch.receiveKept r.next).1, { r with next := (ch.receiveKept r.next).2 }) := by
    rw [receiveKept, channelOf_eq hch]
  rw [read, List.filterMap_some]
  cases h : ch.kept r.next with
  | nil =>
    rw [Channel.receiveKept_nil h, if_pos ended]
    refine ⟨rfl, rfl, ?_⟩
    have after := Channel.kept_receiveKept_nil h
    rw [Channel.receiveKept_nil h] at after
    rw [List.filterMap_some, after]
    rfl
  | cons event rest =>
    obtain ⟨first, after, -⟩ := Channel.receiveKept_cons h
    refine ⟨first, rfl, ?_⟩
    rw [List.filterMap_some, after]
    rfl

/-- Reading on to the next state change passes over all that is none. -/
theorem receiveChange_ended (stamp : Stamp) (ended : ch.ended = true) (fuel next : Nat)
    (enough : (ch.kept next).length < fuel) :
    let make (e : Event Json) : Option (Event StateChange) := (e.typed stamp).toOption
    (ch.receiveChange stamp fuel next).1 =
        (((ch.kept next).filterMap make)[0]?).elim .ended .event ∧
      (ch.kept (ch.receiveChange stamp fuel next).2).filterMap make =
        ((ch.kept next).filterMap make).tail := by
  intro make
  induction fuel generalizing next with
  | zero => exact absurd enough (Nat.not_lt_zero _)
  | succ fuel ih =>
    cases h : ch.kept next with
    | nil =>
      have read := Channel.receiveKept_nil h
      rw [if_pos ended] at read
      have here : ch.receiveChange stamp (fuel + 1) next = (.ended, max next ch.oldest) := by
        rw [Channel.receiveChange, read]
      have after := Channel.kept_receiveKept_nil h
      rw [read] at after
      rw [here, after]
      exact ⟨rfl, rfl⟩
    | cons event rest =>
      obtain ⟨first, after, -⟩ := Channel.receiveKept_cons h
      have read : ch.receiveKept next = (.event event, (ch.receiveKept next).2) :=
        Prod.ext first rfl
      cases hm : (event.typed stamp : ReadResult (Event StateChange)) with
      | ok change =>
        have here : ch.receiveChange stamp (fuel + 1) next =
            (.event change, (ch.receiveKept next).2) := by
          rw [Channel.receiveChange, read]
          dsimp only
          rw [hm]
        have made : make event = some change := by
          show (event.typed stamp).toOption = some change
          rw [hm]
          rfl
        rw [here, after, List.filterMap_cons, made]
        exact ⟨rfl, rfl⟩
      | error cause =>
        -- An event that is no state change is kept no longer, so fuel is left.
        have here : ch.receiveChange stamp (fuel + 1) next =
            ch.receiveChange stamp fuel (ch.receiveKept next).2 := by
          rw [Channel.receiveChange, read]
          dsimp only
          rw [hm]
        have made : make event = none := by
          show (event.typed stamp).toOption = none
          rw [hm]
          rfl
        rw [here, List.filterMap_cons, made]
        have rest_ := ih (ch.receiveKept next).2 (by
          rw [after]
          rw [h, List.length_cons] at enough
          omega)
        rwa [after] at rest_

/-- Reading changes only, one gets all of them that can be read. -/
theorem readsOut_receiveChange (stamp : Stamp) :
    ReadsOut (receiveChange stamp) fun e => (e.typed stamp).toOption := by
  intro s r ch hch ended
  have read : s.receiveChange stamp r =
      ((ch.receiveChange stamp (ch.events.length + 1) r.next).1,
        { r with next := (ch.receiveChange stamp (ch.events.length + 1) r.next).2 }) := by
    rw [receiveChange, channelOf_eq hch]
  have enough : (ch.kept r.next).length < ch.events.length + 1 := by
    rw [Channel.kept, List.length_drop]
    omega
  obtain ⟨first, after⟩ := receiveChange_ended stamp ended _ r.next enough
  rw [read]
  exact ⟨first, rfl, after⟩

end Subscriptions

namespace Connection

variable {c : Connection} {r : Receiver} {ch : Channel} {α : Type}

/-- A connection does something, or a receiver reads. -/
inductive Move where
  | act (action : Action)
  | read

namespace Move

def action? : Move → Option Action
  | .act a => some a
  | .read => none

/-- What the connection does. -/
def actions (moves : List Move) : List Action := moves.filterMap action?

/-- How many readings there are. -/
def reads (moves : List Move) : Nat := moves.countP fun m => m.action?.isNone

@[simp] theorem reads_act (a : Action) (rest : List Move) :
    reads (.act a :: rest) = reads rest := rfl

@[simp] theorem reads_read (rest : List Move) : reads (.read :: rest) = reads rest + 1 := by
  simp [reads, action?]

end Move

/-- What a receiver gets by some way of reading, and how far it has read then. -/
def follow (read : Subscriptions → Receiver → Received α × Receiver) :
    Connection → Receiver → List Move → List (Received α) × Receiver
  | _, r, [] => ([], r)
  | c, r, .act a :: rest => follow read (c.act a) r rest
  | c, r, .read :: rest =>
    let (received, next) := read c.subscriptions r
    let (more, last) := follow read c next rest
    (received :: more, last)

/-- Whenever a receiver reads, what it has not read is still kept. -/
def KeepsUp : Connection → Receiver → List Move → Prop
  | _, _, [] => True
  | c, r, .act a :: rest => KeepsUp (c.act a) r rest
  | c, r, .read :: rest =>
    (c.subscriptions.channelOf r).oldest ≤ r.next ∧
      KeepsUp c (c.subscriptions.receiveKept r).2 rest

/-- What a receiver gets that is not behind, and where it stands then. -/
theorem receiveKept_not_behind (ahead : ch.oldest ≤ r.next) (le : r.next ≤ ch.events.length) :
    (ch.receiveKept r.next).1.event?.toList ++ ch.events.drop (ch.receiveKept r.next).2 =
        ch.events.drop r.next ∧
      (ch.receiveKept r.next).2 ≤ ch.events.length := by
  rw [← Channel.kept_of_le ahead]
  cases h : ch.kept r.next with
  | nil =>
    have none_ : (if ch.ended then .ended else .nothingYet : Received Json).event? = none := by
      split <;> rfl
    rw [Channel.receiveKept_nil h, none_, Nat.max_eq_left ahead, ← Channel.kept_of_le ahead, h]
    exact ⟨rfl, le⟩
  | cons event rest =>
    obtain ⟨first, after, le'⟩ := Channel.receiveKept_cons h
    have ahead' : ch.oldest ≤ (ch.receiveKept r.next).2 := by
      rw [Channel.receiveKept_eq, List.getElem?_eq_getElem (Channel.lt_of_kept_cons h)]
      exact Nat.le_succ_of_le (Nat.le_max_right _ _)
    rw [first, ← Channel.kept_of_le ahead', after]
    exact ⟨rfl, le'⟩

/-- A receiver that does not fall behind gets the events of its channel once and
in the order in which they were delivered: what it got, and what it can still
read, is what it had not read before, and then what came. -/
theorem follow_events {moves : List Move}
    (hch : c.subscriptions.channels[r.channel]? = some ch) (le : r.next ≤ ch.events.length)
    (keepsUp : KeepsUp c r moves) :
    ∃ ch', (c.actAll (Move.actions moves)).subscriptions.channels[r.channel]? = some ch' ∧
      (follow Subscriptions.receiveKept c r moves).1.filterMap Received.event? ++
          ch'.events.drop (follow Subscriptions.receiveKept c r moves).2.next =
        ch.events.drop r.next ++
          (delivered r.channel c (Move.actions moves)).map EventFrame.event := by
  -- Along the moves: an action adds to what the channel keeps, a reading takes the
  -- first of it.
  induction moves generalizing c r ch with
  | nil => exact ⟨ch, hch, (List.append_nil _).symm⟩
  | cons m rest ih =>
    cases m with
    | act a =>
      obtain ⟨ch₁, hch₁, -, events, -⟩ := (c.act_step a).channel hch
      have le₁ : r.next ≤ ch₁.events.length := by
        rw [events, List.length_append]
        exact Nat.le_trans le (Nat.le_add_right _ _)
      obtain ⟨ch', hch', all⟩ := ih hch₁ le₁ keepsUp
      refine ⟨ch', hch', all.trans ?_⟩
      rw [events, List.drop_append_of_le_length le, List.append_assoc, ← List.map_append]
      rfl
    | read =>
      have step : c.subscriptions.receiveKept r =
          ((ch.receiveKept r.next).1, { r with next := (ch.receiveKept r.next).2 }) := by
        rw [Subscriptions.receiveKept, Subscriptions.channelOf_eq hch]
      obtain ⟨ahead, keepsUp⟩ := keepsUp
      rw [Subscriptions.channelOf_eq hch] at ahead
      rw [step] at keepsUp
      obtain ⟨first, le₁⟩ := receiveKept_not_behind ahead le
      obtain ⟨ch', hch', all⟩ :=
        ih (r := { r with next := (ch.receiveKept r.next).2 }) hch le₁ keepsUp
      refine ⟨ch', hch', ?_⟩
      have out : follow Subscriptions.receiveKept c r (.read :: rest) =
          ((ch.receiveKept r.next).1 ::
            (follow Subscriptions.receiveKept c { r with next := (ch.receiveKept r.next).2 } rest).1,
            (follow Subscriptions.receiveKept c
              { r with next := (ch.receiveKept r.next).2 } rest).2) := by
        rw [follow, step]
      have one : ∀ (x : Received Json) (xs : List (Received Json)),
          (x :: xs).filterMap Received.event? = x.event?.toList ++ xs.filterMap Received.event? := by
        intro x xs
        rw [List.filterMap_cons]
        cases x.event? <;> rfl
      rw [out, one, List.append_assoc, all, ← List.append_assoc, first]
      rfl

/-- What some readings give: events one after another, and the end after that. -/
def thenEnd (events : List (Event α)) (readings : Nat) : List (Received α) :=
  (List.range readings).map fun i => events[i]?.elim .ended .event

/-- On a channel that ended, a receiver gets what is kept, and then the end. -/
theorem follow_ended {read : Subscriptions → Receiver → Received α × Receiver}
    {make : Event Json → Option (Event α)} (readsOut : Subscriptions.ReadsOut read make)
    (h : c.Reachable) (hch : c.subscriptions.channels[r.channel]? = some ch)
    (ended : ch.ended = true) (moves : List Move) :
    (follow read c r moves).1 = thenEnd ((ch.kept r.next).filterMap make) (Move.reads moves) := by
  induction moves generalizing c r ch with
  | nil => rfl
  | cons m rest ih =>
    cases m with
    | act a =>
      -- Nothing is delivered any more, so the same is kept.
      obtain ⟨ch₁, hch₁, window, events, ended₁⟩ := (c.act_step a).channel hch
      have none_ : delivery r.channel c a = [] := by
        have all := delivered_of_ended h hch ended [a]
        exact (List.append_eq_nil_iff.1 all).1
      rw [none_, List.map_nil, List.append_nil] at events
      have same : ch₁.kept r.next = ch.kept r.next := by
        rw [Channel.kept, Channel.kept, Channel.oldest, Channel.oldest, events, window]
      refine (ih (h.act a) hch₁ (ended₁ ended)).trans ?_
      rw [same, Move.reads_act]
    | read =>
      obtain ⟨first, channel, after⟩ := readsOut c.subscriptions r ch hch ended
      have out : (follow read c r (.read :: rest)).1 =
          (read c.subscriptions r).1 :: (follow read c (read c.subscriptions r).2 rest).1 := rfl
      rw [out, ih h (channel ▸ hch) ended, Move.reads_read, thenEnd, thenEnd,
        List.range_succ_eq_map, List.map_cons, List.map_map, first, after]
      congr 1
      refine List.map_congr_left fun i _ => ?_
      rw [List.getElem?_tail]
      rfl

end Connection

end HubAutomation
