import HubAutomation.Proofs.Client.Readings
import HubAutomation.Runner

/-!
# Reading state changes from a stream

The stream of a run has all events that were routed to it. The run reads the
state changes among them and passes over the rest. What is no state change does
no harm if it is lost.

- `Event.isChange`: whether an event is read as a state change; the stamp that it
  is read with has no part in that.
- `changesIn`: the state changes among events.
- `Channel.Lossless`: no state change has been lost.
- `Channel.Reads`: what comes of reading on.
-/

namespace HubAutomation

/-! ### What is read -/

namespace ReadResult

variable {α β γ δ : Type}

theorem isOk_pure (v : α) : (pure v : ReadResult α).isOk = true := rfl

/-- Two readings in a row succeed together if each of them does. -/
theorem isOk_bind {x : ReadResult α} {y : ReadResult β} {f : α → ReadResult γ}
    {g : β → ReadResult δ} (first : x.isOk = y.isOk) (after : ∀ v w, (f v).isOk = (g w).isOk) :
    (x >>= f).isOk = (y >>= g).isOk := by
  cases x <;> cases y
  · rfl
  · cases first
  · cases first
  · exact after _ _

theorem isOk_bind_self (x : ReadResult α) {f : α → ReadResult γ} {g : α → ReadResult δ}
    (after : ∀ v, (f v).isOk = (g v).isOk) : (x >>= f).isOk = (x >>= g).isOk := by
  cases x
  · rfl
  · exact after _

end ReadResult

open ReadResult

theorem Record.isOk_nullable {α : Type} (r : Record) (name : String)
    {read read' : Json → ReadResult α} (same : ∀ j, (read j).isOk = (read' j).isOk) :
    (r.nullable name read).isOk = (r.nullable name read').isOk := by
  unfold Record.nullable
  split
  · rfl
  · exact isOk_bind (same _) fun _ _ => rfl
  · rfl

/-- The stamp of a snapshot only stands in for a context that is left out. -/
theorem State.isOk_ofJson (stamp stamp' : Stamp) (j : Json) :
    (State.ofJson stamp j).isOk = (State.ofJson stamp' j).isOk := by
  unfold State.ofJson
  refine isOk_bind_self _ fun r => ?_
  dsimp only
  split
  · iterate 9 refine isOk_bind_self _ fun _ => ?_
    rw [isOk_pure, isOk_pure]
  · iterate 7 refine isOk_bind_self _ fun _ => ?_
    rw [isOk_pure, isOk_pure]

/-- Whether a change can be read does not depend on what is made up for it. -/
theorem StateChange.isOk_ofJson (stamp stamp' : Stamp) (j : Json) :
    (StateChange.ofJson stamp j).isOk = (StateChange.ofJson stamp' j).isOk := by
  have old (r : Record) := r.isOk_nullable "old_state"
    (State.isOk_ofJson (stamp.fork 0) (stamp'.fork 0))
  have new (r : Record) := r.isOk_nullable "new_state"
    (State.isOk_ofJson (stamp.fork 1) (stamp'.fork 1))
  unfold StateChange.ofJson
  refine isOk_bind_self _ fun r => isOk_bind_self _ fun entityId => ?_
  -- In an object the new side is read before the old one, and once more after it.
  have rest {f : Option State → Option State → ReadResult StateChange}
      (same : ∀ a b c d, (f a b).isOk = (f c d).isOk) :
      (r.nullable "old_state" (State.ofJson (stamp.fork 0)) >>= fun old =>
        r.nullable "new_state" (State.ofJson (stamp.fork 1)) >>= f old).isOk =
      (r.nullable "old_state" (State.ofJson (stamp'.fork 0)) >>= fun old =>
        r.nullable "new_state" (State.ofJson (stamp'.fork 1)) >>= f old).isOk :=
    isOk_bind (old r) fun _ _ => isOk_bind (new r) fun _ _ => same _ _ _ _
  cases entityId with
  | none =>
    dsimp only
    split
    · exact isOk_bind (new r) fun _ _ => rest fun _ _ _ _ => rfl
    · exact rest fun _ _ _ _ => rfl
  | some entityId =>
    dsimp only
    split
    · exact isOk_bind (new r) fun _ _ => rest fun _ _ _ _ => rfl
    · exact rest fun _ _ _ _ => rfl

namespace Event

/-- Whether an event is read as a state change. -/
def isChange (e : Event Json) : Bool :=
  (e.typed ⟨⟨⟨1970, 1, 1⟩, 0, 0, 0, 0⟩, 0⟩ : ReadResult (Event StateChange)).isOk

/-- Whether an event is a change can be told without reading it. -/
theorem isOk_typed (stamp : Stamp) (e : Event Json) :
    (e.typed stamp : ReadResult (Event StateChange)).isOk = e.isChange := by
  unfold isChange typed
  split
  · rfl
  · exact isOk_bind (StateChange.isOk_ofJson _ _ _) fun _ _ => rfl

end Event

/-- The state changes among events. -/
def changesIn (events : List (Event Json)) : List (Event Json) := events.filter Event.isChange

variable {events : List (Event Json)}

theorem changesIn_append (events events' : List (Event Json)) :
    changesIn (events ++ events') = changesIn events ++ changesIn events' :=
  List.filter_append events events'

/-- Where nothing is left to read, nothing is left up to any point. -/
theorem changesIn_take_of_rest {n m : Nat} (le : n ≤ m)
    (rest : changesIn events = changesIn (events.take n)) :
    changesIn (events.take m) = changesIn (events.take n) := by
  have first : events.take m = events.take n ++ (events.take m).drop n := by
    have split := (List.take_append_drop n (events.take m)).symm
    rwa [List.take_take, Nat.min_eq_left le] at split
  have all := congrArg changesIn (List.take_append_drop m events)
  rw [first, changesIn_append, changesIn_append, rest, List.append_assoc] at all
  have nothing := List.append_eq_nil_iff.1 (List.append_right_eq_self.1 all)
  rw [first, changesIn_append, nothing.1, List.append_nil]

/-! ### Reading the stream -/

namespace Channel

variable {c : Channel} {next : Nat}

/-- A channel keeps as many events as its capacity says, or more. -/
theorem le_windowFor (capacity : Nat) : capacity ≤ windowFor capacity := by
  unfold windowFor
  split
  · assumption
  · have least := Nat.lt_log2_self (n := capacity - 1)
    show capacity ≤ 2 ^ _
    omega

/-- None of the events that a channel keeps no longer is a state change, as far
as they are not read. -/
def Lossless (c : Channel) (next : Nat) : Prop :=
  changesIn (c.events.take (max next c.oldest)) = changesIn (c.events.take next)

/-- Nothing is lost while nobody falls behind. -/
theorem lossless_of_le (le : c.oldest ≤ next) : c.Lossless next := by
  rw [Lossless, Nat.max_eq_left le]

/-- What a reader gets that has read the events before `next`. -/
inductive Reads (stamp : Stamp) (c : Channel) (next : Nat) : Received StateChange × Nat → Prop
  | change {e : Event Json} {change : Event StateChange} {next' : Nat} (later : next < next')
      (le : next' ≤ c.events.length) (keeps : c.oldest ≤ next')
      (found : changesIn (c.events.take next') = changesIn (c.events.take next) ++ [e])
      (read : e.typed stamp = .ok change) : Reads stamp c next (.event change, next')
  | rest {next' : Nat} (later : next ≤ next')
      (nothing : changesIn c.events = changesIn (c.events.take next)) :
      Reads stamp c next (if c.ended then .ended else .nothingYet, next')

variable {stamp : Stamp}

/-- Events that are no state changes make no difference to a reader. -/
theorem Reads.earlier {next' : Nat} {result : Received StateChange × Nat}
    (reads : c.Reads stamp next' result) (later : next ≤ next')
    (same : changesIn (c.events.take next') = changesIn (c.events.take next)) :
    c.Reads stamp next result := by
  cases reads with
  | change later' le keeps found read =>
    exact .change (Nat.lt_of_le_of_lt later later') le keeps (found.trans (by rw [same])) read
  | rest later' nothing => exact .rest (Nat.le_trans later later') (nothing.trans same)

/-- Reading a channel goes on to the next change, and skips what is none. -/
theorem receiveChange_reads (stamp : Stamp) (lossless : c.Lossless next) {fuel : Nat}
    (enough : c.events.length - next < fuel) :
    c.Reads stamp next (c.receiveChange stamp fuel next) := by
  -- Each event that is no change costs one step of fuel and one event of the channel.
  induction fuel generalizing next with
  | zero => exact absurd enough (Nat.not_lt_zero _)
  | succ fuel ih =>
    have later : next ≤ max next c.oldest := Nat.le_max_left _ _
    rw [receiveChange, receiveKept_eq]
    cases at_ : c.events[max next c.oldest]? with
    | none =>
      have whole := List.take_of_length_le (List.getElem?_eq_none_iff.1 at_)
      have nothing : changesIn c.events = changesIn (c.events.take next) := by
        rw [← lossless, whole]
      have reads : Reads stamp c next _ := .rest later nothing
      dsimp only
      cases ended : c.ended with
      | true => rwa [ended] at reads
      | false => rwa [ended] at reads
    | some e =>
      obtain ⟨lt, -⟩ := List.getElem?_eq_some_iff.1 at_
      have upTo : changesIn (c.events.take (max next c.oldest + 1)) =
          changesIn (c.events.take next) ++ changesIn [e] := by
        rw [List.take_add_one, at_, changesIn_append, lossless]
        rfl
      have own := Event.isOk_typed stamp e
      dsimp only
      cases read : (e.typed stamp : ReadResult (Event StateChange)) with
      | ok change =>
        rw [read] at own
        have one : changesIn [e] = [e] := List.filter_cons_of_pos own.symm
        rw [one] at upTo
        exact .change (Nat.lt_succ_of_le later) lt (Nat.le_succ_of_le (Nat.le_max_right _ _)) upTo
          read
      | error cause =>
        rw [read] at own
        have none_ : changesIn [e] = [] := List.filter_cons_of_neg (Bool.eq_false_iff.1 own.symm)
        rw [none_, List.append_nil] at upTo
        have further : c.Lossless (max next c.oldest + 1) :=
          lossless_of_le (Nat.le_succ_of_le (Nat.le_max_right _ _))
        exact (ih further (by omega)).earlier (Nat.le_succ_of_le later) upTo

end Channel

end HubAutomation
