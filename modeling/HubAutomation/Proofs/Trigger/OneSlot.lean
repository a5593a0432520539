import HubAutomation.Proofs.Trigger.Orders
import HubAutomation.Proofs.Trigger.Timers

/-!
# A debouncer is one slot

With all its timers, a debouncer does what a single slot would do: it delivers
the calls that are kept, each when its window ends, and nothing else. What was
begun goes on to its end whatever is ordered later. With no window every call
is delivered while it is made.

- `Debounced.orders`: the orders of a run, with their times.
- `Debounced.Follows`: the state agrees with the orders so far.
- `Debounced.OneSlot`, `Debounced.Inline`: what is seen of a run with a window,
  and of one without.
- `Debounced.one_slot`: every run is such a run.
-/

namespace HubAutomation

variable {α : Type}

namespace Debounced

/-- What an act tells the slot. -/
def Act.order? : Act α → Option (Order α)
  | .call payload => some (.call payload)
  | .cancel | .drop => some .withdraw
  | .advance _ => none

/-- The orders of a run, with the times at which they are given. -/
def orders : Debounced α → List (Act α) → Orders α
  | _, [] => []
  | d, a :: rest => a.order?.toList.map (d.now, ·) ++ orders (d.act a) rest

theorem actAll_cons (d : Debounced α) (a : Act α) (rest : List (Act α)) :
    d.actAll (a :: rest) = (d.act a).actAll rest := rfl

/-- What every act keeps true of the orders so far and the state, a run does. -/
theorem run_induction {P : Orders α → Debounced α → Prop}
    (step : ∀ before d a, P before d → P (before ++ a.order?.toList.map (d.now, ·)) (d.act a))
    {before : Orders α} {d : Debounced α} (h : P before d) (acts : List (Act α)) :
    P (before ++ d.orders acts) (d.actAll acts) := by
  induction acts generalizing d before with
  | nil => exact (List.append_nil before).symm ▸ h
  | cons a rest ih =>
    rw [actAll_cons, orders, ← List.append_assoc]
    exact ih (step before d a h)

variable {d : Debounced α} {before : Orders α} {timeout due timer : Nat} {payload : α}

/-- Who cancels nothing changes nothing. -/
theorem cancel_of_not_pending (h : d.debouncer.phase ≠ .pending) : d.cancel = (false, d) := by
  have idle : d.debouncer.isPending = false := beq_eq_false_iff_ne.2 h
  unfold cancel
  rw [Debouncer.cancel_of_not_isPending idle]

/-- What waits is the payload in the slot. -/
theorem waiting_eq_some :
    d.waiting = some (due, payload) ↔ ∃ timer, d.debouncer.slot = .pending due payload timer := by
  unfold waiting
  cases d.debouncer.slot <;> simp

/-- What has begun is the part of what was promised that is over. -/
theorem Sound.begun_eq (s : d.Sound) (r : d.Rested) :
    d.promised.filter (fun k => k.1 ≤ d.now) = d.begun := by
  have begun : d.begun.filter (fun k => k.1 ≤ d.now) = d.begun :=
    List.filter_eq_self.2 fun b hb => decide_eq_true (s.begun_past b hb)
  have waiting : d.waiting.toList.filter (fun k => k.1 ≤ d.now) = [] := by
    refine List.filter_eq_nil_iff.2 fun k hk => ?_
    obtain ⟨timer, pending⟩ := waiting_eq_some.1 (Option.mem_toList.1 hk)
    have isOpen : d.now < k.1 := r _ (s.slot pending).2.2
    simpa using isOpen
  rw [promised, List.filter_append, begun, waiting, List.append_nil]

/-! ### With a window -/

/-- A state between two acts agrees with the orders so far. -/
structure Follows (timeout : Nat) (orders : Orders α) (d : Debounced α) : Prop where
  sound : d.Sound
  rested : d.Rested
  timeout_eq : d.debouncer.timeout = timeout
  past : ∀ o ∈ orders, o.1 ≤ d.now
  promised : d.promised = orders.kept timeout

/-- At first nothing was ordered. -/
theorem follows_new (timeout : Nat) (delivery : Delivery α) :
    Follows timeout [] (new timeout delivery) where
  sound := sound_new timeout delivery
  rested := by simp [Rested, new, Timeline.start]
  timeout_eq := rfl
  past := by simp
  promised := rfl

theorem Follows.past_concat (f : Follows timeout before d) (order : Order α) :
    ∀ o ∈ before ++ [(d.now, order)], o.1 ≤ d.now :=
  List.forall_mem_append.2 ⟨f.past, by simp⟩

/-- One more order leaves what has begun, and the call if it is one. -/
theorem Follows.kept_concat (f : Follows timeout before d) (order : Order α) :
    (before ++ [(d.now, order)]).kept timeout =
      d.begun ++ Orders.kept timeout [(d.now, order)] := by
  rw [Orders.kept_concat, ← f.promised, f.sound.begun_eq f.rested]

/-- A call takes the slot over. -/
theorem Follows.call (f : Follows timeout before d) (pos : 0 < timeout) (payload : α) :
    Follows timeout (before ++ [(d.now, .call payload)]) (d.call payload) := by
  have isPos : 0 < d.debouncer.timeout := f.timeout_eq ▸ pos
  have sound := f.sound.call isPos payload
  have e := call_eq isPos payload
  exact
    { sound
      rested := by
        rw [e]
        refine List.forall_mem_append.2 ⟨f.rested, ?_⟩
        simp only [List.forall_mem_singleton]
        exact Nat.lt_add_of_pos_right isPos
      timeout_eq := by rw [e]; exact f.timeout_eq
      past := by rw [e]; exact f.past_concat _
      promised := by
        rw [f.kept_concat, Orders.kept_call, ← f.timeout_eq, e]
        rfl }

/-- A cancellation empties the slot. -/
theorem Follows.cancel (f : Follows timeout before d) :
    Follows timeout (before ++ [(d.now, .withdraw)]) d.cancel.2 := by
  have kept := f.kept_concat .withdraw
  rw [Orders.kept_withdraw, List.append_nil] at kept
  rcases cancel_eq d with ⟨e, idle⟩ | e
  · rw [e]
    exact ⟨f.sound, f.rested, f.timeout_eq, f.past_concat _, by
      rw [kept, Debounced.promised, idle]
      exact List.append_nil _⟩
  · have sound := f.sound.cancel
    rw [e] at sound ⊢
    exact ⟨sound, f.rested, f.timeout_eq, f.past_concat _, kept ▸ List.append_nil _⟩

/-- Time passes without orders. -/
theorem Follows.advance (f : Follows timeout before d) (milliseconds : Nat) :
    Follows timeout before (d.advance milliseconds) := by
  obtain ⟨sound, passed, rested⟩ := f.sound.advance milliseconds
  exact ⟨sound, rested, passed.timeout.trans f.timeout_eq,
    fun o ho => Nat.le_trans (f.past o ho) passed.now_le, passed.promised.trans f.promised⟩

/-- One more act, with a window. -/
theorem Follows.act (f : Follows timeout before d) (pos : 0 < timeout) (a : Act α) :
    Follows timeout (before ++ a.order?.toList.map (d.now, ·)) (d.act a) := by
  cases a with
  | call payload => exact f.call pos payload
  | cancel => exact f.cancel
  | drop => exact f.cancel
  | advance milliseconds => exact (List.append_nil before).symm ▸ f.advance milliseconds

/-- Many more acts, with a window. -/
theorem Follows.actAll (f : Follows timeout before d) (pos : 0 < timeout) (acts : List (Act α)) :
    Follows timeout (before ++ d.orders acts) (d.actAll acts) :=
  run_induction (fun _ _ a f => f.act pos a) f acts

/-- A timer of an earlier generation stays one. -/
theorem Stale.act (h : Stale timer d) (f : Follows timeout before d) (pos : 0 < timeout)
    (a : Act α) : Stale timer (d.act a) := by
  cases a with
  | call payload => exact h.call (f.timeout_eq ▸ pos) payload
  | cancel => exact h.cancel
  | drop => exact h.cancel
  | advance milliseconds => exact h.passed (f.sound.advance milliseconds).2.1

theorem Stale.actAll (h : Stale timer d) (f : Follows timeout before d) (pos : 0 < timeout)
    (acts : List (Act α)) : Stale timer (d.actAll acts) := by
  induction acts generalizing d before with
  | nil => exact h
  | cons a rest ih => exact ih (h.act f pos a) (f.act pos a)

/-- What is seen of a debouncer with a window after some orders. -/
structure OneSlot (timeout : Nat) (orders : Orders α) (d : Debounced α) : Prop where
  /-- The deliveries are those of the kept calls whose windows have ended. -/
  begun : d.begun = (orders.kept timeout).filter fun k => k.1 ≤ d.now
  /-- A payload waits exactly if the latest order was the call with it, and the
  window of that call has not ended. -/
  waits : ∀ due payload, d.waiting = some (due, payload) ↔
    ∃ before time, orders = before ++ [(time, .call payload)] ∧ due = time + timeout ∧ d.now < due
  phase : d.debouncer.phase = .pending ↔ d.waiting.isSome
  deadline : d.debouncer.deadline? = d.waiting.map Prod.fst
  /-- A cancellation says whether a payload waits, and does nothing if none does. -/
  cancels : d.cancel.1 = true ↔ d.debouncer.phase = .pending
  cancels_nothing : d.debouncer.phase ≠ .pending → d.cancel = (false, d)
  /-- A timer that is not the one of the slot gets nothing, now or later, at any
  moment between two alarms. -/
  stale : ∀ timer, Stale timer d → ∀ more limit fuel, (d.actAll more).now ≤ limit →
    (fireUpTo limit fuel (d.actAll more)).debouncer.collect timer = none
  /-- A delivery that has begun ends when its time has come. -/
  ended : d.ended.Perm ((d.begun.filterMap d.delivery.end?).filter fun e => e.1 ≤ d.now)

/-- Deliveries whose ends are yet to come have alarms, and the others have
ended. -/
theorem Sound.ended_perm (s : d.Sound) (r : d.Rested) :
    d.ended.Perm ((d.begun.filterMap d.delivery.end?).filter fun e => e.1 ≤ d.now) := by
  have ended : d.ended.filter (fun e => e.1 ≤ d.now) = d.ended :=
    List.filter_eq_self.2 fun e he => decide_eq_true (s.ended_past e he)
  have ahead : (Debounced.ends d.timeline.alarms).filter (fun e => e.1 ≤ d.now) = [] := by
    refine List.filter_eq_nil_iff.2 fun e he => ?_
    obtain ⟨a, ha, some_⟩ := List.mem_filterMap.1 he
    obtain ⟨payload, -, rfl⟩ := Option.map_eq_some_iff.1 some_
    simpa using r a ha
  have perm := s.ends.filter fun e => e.1 ≤ d.now
  rwa [List.filter_append, ended, ahead, List.append_nil] at perm

/-- What waits is the payload of the last call, unless its window is over or it was
withdrawn. -/
theorem Follows.waits (f : Follows timeout before d) (due : Nat) (payload : α) :
    d.waiting = some (due, payload) ↔
      ∃ first time, before = first ++ [(time, .call payload)] ∧ due = time + timeout ∧
        d.now < due := by
  constructor
  · intro waiting
    obtain ⟨timer, pending⟩ := waiting_eq_some.1 waiting
    have isOpen : d.now < due := f.rested _ (f.sound.slot pending).2.2
    have kept : before.kept timeout = d.begun ++ [(due, payload)] := by
      rw [← f.promised, Debounced.promised, waiting, Option.toList_some]
    obtain ⟨first, time, e, due_eq⟩ := Orders.last_of_kept f.past isOpen kept
    exact ⟨first, time, e, due_eq, isOpen⟩
  · rintro ⟨first, time, rfl, rfl, isOpen⟩
    -- The call is kept, and it is not among what has begun.
    have kept : (time + timeout, payload) ∈ d.promised := by
      rw [f.promised, Orders.kept_concat, Orders.kept_call]
      exact List.mem_append_right _ (List.mem_singleton.2 rfl)
    rcases List.mem_append.1 kept with begun | waiting
    · exact absurd (f.sound.begun_past _ begun) (Nat.not_le_of_lt isOpen)
    · exact Option.mem_toList.1 waiting

/-- With a window, there is one slot. -/
theorem Follows.oneSlot (f : Follows timeout before d) (pos : 0 < timeout) :
    OneSlot timeout before d where
  begun := by rw [← f.promised, f.sound.begun_eq f.rested]
  waits := f.waits
  phase := by
    unfold Debouncer.phase waiting
    cases d.debouncer.slot <;> simp
  deadline := by
    unfold Debouncer.deadline? waiting
    cases d.debouncer.slot <;> rfl
  cancels := by
    show d.debouncer.cancel.1 = true ↔ _
    rw [Debouncer.cancel_fst, Debouncer.isPending, beq_iff_eq]
  cancels_nothing := cancel_of_not_pending
  stale := by
    intro timer gone more limit fuel le
    obtain ⟨sound, passed, -⟩ := (f.actAll pos more).sound.fireUpTo fuel le
    exact sound.collect_eq_none ((gone.actAll f pos more).passed passed).2
  ended := f.sound.ended_perm f.rested

/-- A call begins a delivery exactly if its window has ended and no order came
before that. -/
theorem OneSlot.mem_begun_iff (o : OneSlot timeout before d) :
    (due, payload) ∈ d.begun ↔
      ∃ first time later, before = first ++ (time, .call payload) :: later ∧
        due = time + timeout ∧ due ≤ d.now ∧ ∀ o ∈ later, due ≤ o.1 := by
  rw [o.begun, List.mem_filter, decide_eq_true_iff, Orders.mem_kept]
  constructor
  · rintro ⟨⟨first, time, later, e, due_eq, undisturbed⟩, isPast⟩
    exact ⟨first, time, later, e, due_eq, isPast, undisturbed⟩
  · rintro ⟨first, time, later, e, due_eq, isPast, undisturbed⟩
    exact ⟨⟨first, time, later, e, due_eq, undisturbed⟩, isPast⟩

/-! ### Without a window -/

/-- What is seen of a debouncer without a window after some orders. -/
structure Inline (orders : Orders α) (d : Debounced α) : Prop where
  /-- Every call began a delivery when it was made. -/
  begun : d.begun = orders.calls
  /-- Every delivery that took time has ended. -/
  ended : d.ended = d.begun.filterMap d.delivery.end?
  ended_past : ∀ e ∈ d.ended, e.1 ≤ d.now
  /-- Nothing ever waits, so there are no timers and there is nothing to cancel. -/
  alarms : d.timeline.alarms = []
  phase : d.debouncer.phase ≠ .pending
  timeout_eq : d.debouncer.timeout = 0

/-- At first nothing was ordered, and nothing waits. -/
theorem inline_new (delivery : Delivery α) : Inline [] (new 0 delivery) where
  begun := rfl
  ended := rfl
  ended_past := by simp [ended, new]
  alarms := rfl
  phase := by simp [new, Debouncer.new, Debouncer.phase]
  timeout_eq := rfl

/-- A delivery that is waited for begins and ends before anything else happens. -/
theorem deliverNow_eq (d : Debounced α) (payload : α) :
    (d.deliverNow payload).begun = d.begun ++ [(d.now, payload)] ∧
      (d.deliverNow payload).ended = d.ended ++ (d.delivery.end? (d.now, payload)).toList ∧
      d.now ≤ (d.deliverNow payload).now ∧
      ∀ e ∈ d.delivery.end? (d.now, payload), e.1 ≤ (d.deliverNow payload).now := by
  unfold deliverNow Delivery.end?
  dsimp only
  cases wakes : d.delivery.wakesAt? d.now payload with
  | none =>
    exact ⟨begun_begin d payload, (ended_begin d payload).trans (List.append_nil _).symm,
      Nat.le_refl _, by simp⟩
  | some due =>
    have now_eq : max d.now due = due := Nat.max_eq_right (Delivery.le_of_wakesAt? wakes)
    refine ⟨?_, ?_, Nat.le_max_left _ _, ?_⟩
    · rw [begun_finish]
      exact begun_begin d payload
    · rw [ended_finish]
      show (d.begin payload).ended ++ [(max d.now due, payload)] = d.ended ++ [(due, payload)]
      rw [ended_begin, now_eq]
    · rintro e he
      cases he
      exact Nat.le_max_right d.now due

/-- A delivery without a window leaves alarms and slot alone. -/
theorem alarms_deliverNow (d : Debounced α) (payload : α) :
    (d.deliverNow payload).timeline.alarms = d.timeline.alarms ∧
      (d.deliverNow payload).debouncer = d.debouncer ∧
      (d.deliverNow payload).delivery = d.delivery := by
  unfold deliverNow
  dsimp only
  cases d.delivery.wakesAt? d.now payload <;> exact ⟨rfl, rfl, rfl⟩

/-- Without a window, a call delivers at once. -/
theorem Inline.call (i : Inline before d) (payload : α) :
    Inline (before ++ [(d.now, .call payload)]) (d.call payload) := by
  have e : d.call payload =
      { d with debouncer := { d.debouncer with slot := .fired } }.deliverNow payload := by
    unfold Debounced.call Debouncer.call
    rw [if_pos i.timeout_eq]
  obtain ⟨begun, ended, now_le, end_le⟩ :=
    deliverNow_eq { d with debouncer := { d.debouncer with slot := .fired } } payload
  obtain ⟨alarms, debouncer, delivery⟩ :=
    alarms_deliverNow { d with debouncer := { d.debouncer with slot := .fired } } payload
  rw [e]
  exact
    { begun := by
        rw [begun, Orders.calls_append, ← i.begun]
        rfl
      ended := by
        rw [begun, ended, delivery, List.filterMap_append]
        show d.ended ++ _ = d.begun.filterMap d.delivery.end? ++ _
        rw [i.ended, List.filterMap_cons]
        cases d.delivery.end? (d.now, payload) <;> rfl
      ended_past := by
        rw [ended]
        refine List.forall_mem_append.2 ⟨fun e he => ?_, fun e he => ?_⟩
        · exact Nat.le_trans (i.ended_past e he) now_le
        · exact end_le e (Option.mem_toList.1 he)
      alarms := alarms.trans i.alarms
      phase := by
        rw [debouncer]
        exact fun h => by cases h
      timeout_eq := debouncer ▸ i.timeout_eq }

theorem Inline.cancel (i : Inline before d) :
    Inline (before ++ [(d.now, .withdraw)]) d.cancel.2 := by
  rw [cancel_of_not_pending i.phase]
  exact { i with
    begun := by
      rw [Orders.calls_append, ← i.begun]
      exact (List.append_nil _).symm }

/-- Without a window, time only ends deliveries. -/
theorem Inline.advance (i : Inline before d) (milliseconds : Nat) :
    Inline before (d.advance milliseconds) := by
  have e : d.advance milliseconds =
      { d with timeline := d.timeline.moveTo (d.timeline.target milliseconds) } := by
    have noWork : d.work = 0 := by
      unfold work
      rw [i.alarms]
      rfl
    unfold Debounced.advance
    rw [noWork]
    rfl
  rw [e]
  exact { i with
    ended_past := fun e he => Nat.le_trans (i.ended_past e he) (Nat.le_max_left _ _) }

/-- One more act, without a window. -/
theorem Inline.act (i : Inline before d) (a : Act α) :
    Inline (before ++ a.order?.toList.map (d.now, ·)) (d.act a) := by
  cases a with
  | call payload => exact i.call payload
  | cancel => exact i.cancel
  | drop => exact i.cancel
  | advance milliseconds => exact (List.append_nil before).symm ▸ i.advance milliseconds

theorem Inline.actAll (i : Inline before d) (acts : List (Act α)) :
    Inline (before ++ d.orders acts) (d.actAll acts) :=
  run_induction (fun _ _ a i => i.act a) i acts

/-! ### Every run -/

/-- In every run a debouncer delivers the calls that no other order follows
within their windows, in their order, each once and when its window ends, and
ends what it has begun. Without a window it delivers every call while it is
made. -/
theorem one_slot (timeout : Nat) (delivery : Delivery α) (acts : List (Act α)) :
    (0 < timeout →
      OneSlot timeout ((new timeout delivery).orders acts) ((new timeout delivery).actAll acts)) ∧
    (timeout = 0 →
      Inline ((new timeout delivery).orders acts) ((new timeout delivery).actAll acts)) := by
  constructor
  · intro pos
    exact ((follows_new timeout delivery).actAll pos acts).oneSlot pos
  · rintro rfl
    exact (inline_new delivery).actAll acts

/-- The first delivery is slow, and goes on while later calls are made and
withdrawn. -/
theorem one_slot_slow :
    let slow : Delivery String :=
      .ofScripts fun label => { Script.plain label with sleeps := some 8 }
    let acts : List (Act String) := [.call "a", .advance 6, .call "b", .cancel, .call "c",
      .advance 5, .call "d", .drop, .advance 2]
    OneSlot 5 ((new 5 slow).orders acts) ((new 5 slow).actAll acts) ∧
      ((new 5 slow).actAll acts).begun = [(5, "a"), (11, "c")] ∧
      ((new 5 slow).actAll acts).ended = [(13, "a")] :=
  ⟨(one_slot 5 _ _).1 (by decide), by decide, by decide⟩

end Debounced

end HubAutomation
