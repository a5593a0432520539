import HubAutomation.Trigger.Debounced
import Mathlib.Data.List.Nodup
import Mathlib.Algebra.GroupWithZero.Nat
import Mathlib.Algebra.Order.BigOperators.Group.List
import Mathlib.Algebra.Order.Group.Nat

/-!
# Timers of a debouncer

A debouncer on a clock has one slot and any number of timers: the one of the
payload that waits, those of earlier windows, which were told to stop but whose
alarms are still set, and those that wait in a delivery. No two of them have
the same name, and only the first kind is ever told to stop.

- `Debounced.begun`, `Debounced.ended`, `Debounced.waiting`: views of a state.
- `Debounced.Sound`: what holds of slot, timers and alarms at every moment.
- `Debounced.Fired`: what an alarm that goes off can do.
- `Debounced.Passed`: what is the same after alarms have gone off.
- `Debounced.Stale`: a timer whose generation is over.
-/

namespace HubAutomation

variable {α : Type}

namespace DeliveryMoment

def begun? : DeliveryMoment α → Option (Nat × α)
  | .begun time payload => some (time, payload)
  | .ended _ _ => none

def ended? : DeliveryMoment α → Option (Nat × α)
  | .begun _ _ => none
  | .ended time payload => some (time, payload)

end DeliveryMoment

namespace DebounceAlarm

/-- The timer whose alarm it is. -/
def timer : DebounceAlarm α → Nat
  | .window timer => timer
  | .delivery timer _ => timer

/-- The payload of a delivery that goes on. -/
def payload? : DebounceAlarm α → Option α
  | .window _ => none
  | .delivery _ payload => some payload

end DebounceAlarm

namespace Delivery

/-- The end of a delivery that began at some time, if it waits. -/
def end? (d : Delivery α) (begun : Nat × α) : Option (Nat × α) :=
  (d.wakesAt? begun.1 begun.2).map (·, begun.2)

/-- A delivery does not end before it begins. -/
theorem le_of_wakesAt? {d : Delivery α} {now due : Nat} {payload : α}
    (h : d.wakesAt? now payload = some due) : now ≤ due := by
  obtain ⟨length, -, rfl⟩ := Option.map_eq_some_iff.1 h
  exact Nat.le_add_right now length

end Delivery

namespace Debounced

/-! ### Views -/

/-- The deliveries that began, with their times. -/
def begun (d : Debounced α) : List (Nat × α) := d.moments.filterMap DeliveryMoment.begun?

/-- The deliveries that waited and ended, with the times of their ends. -/
def ended (d : Debounced α) : List (Nat × α) := d.moments.filterMap DeliveryMoment.ended?

/-- The payload that waits, and when it is due. -/
def waiting (d : Debounced α) : Option (Nat × α) :=
  match d.debouncer.slot with
  | .pending due payload _ => some (due, payload)
  | _ => none

/-- What was delivered so far, and what will be if nothing is said any more. -/
def promised (d : Debounced α) : List (Nat × α) := d.begun ++ d.waiting.toList

/-- The ends that some alarms stand for. -/
def ends (alarms : List (Alarm (DebounceAlarm α))) : List (Nat × α) :=
  alarms.filterMap fun a => a.wakes.payload?.map (a.due, ·)

/-- Ends are planned by each alarm on its own. -/
theorem ends_append (alarms later : List (Alarm (DebounceAlarm α))) :
    ends (alarms ++ later) = ends alarms ++ ends later := List.filterMap_append

/-- The alarms and the slot fit together. -/
structure Sound (d : Debounced α) : Prop where
  /-- No alarm was missed. -/
  ahead : ∀ a ∈ d.timeline.alarms, d.now ≤ a.due
  /-- A timer has one alarm. -/
  distinct : (d.timeline.alarms.map fun a => a.wakes.timer).Nodup
  /-- The names of timers are generations that there were. -/
  known : ∀ a ∈ d.timeline.alarms, a.wakes.timer ≤ d.debouncer.generation
  stopped_known : ∀ timer ∈ d.debouncer.stopped, timer ≤ d.debouncer.generation
  /-- The timer of the slot is that of the last generation, runs, and waits for
  the deadline. -/
  slot : ∀ {due payload timer}, d.debouncer.slot = .pending due payload timer →
    timer = d.debouncer.generation ∧ d.debouncer.runs timer = true ∧
      ⟨due, .window timer⟩ ∈ d.timeline.alarms
  /-- A timer that waits in a delivery was not told to stop. -/
  delivers : ∀ {due timer payload}, ⟨due, .delivery timer payload⟩ ∈ d.timeline.alarms →
    d.debouncer.runs timer = true
  begun_past : ∀ b ∈ d.begun, b.1 ≤ d.now
  ended_past : ∀ e ∈ d.ended, e.1 ≤ d.now
  /-- Each delivery that waits has ended or has an alarm for its end. -/
  ends : (d.ended ++ ends d.timeline.alarms).Perm (d.begun.filterMap d.delivery.end?)

/-- A new debouncer has no timers. -/
theorem sound_new (timeout : Nat) (delivery : Delivery α) : (new timeout delivery).Sound where
  ahead := by simp [new, Timeline.start]
  distinct := List.nodup_nil
  known := by simp [new, Timeline.start]
  stopped_known := by simp [new, Debouncer.new]
  slot := fun h => by cases h
  delivers := by simp [new, Timeline.start]
  begun_past := by simp [begun, new]
  ended_past := by simp [ended, new]
  ends := .refl _

variable {d d' : Debounced α} {others : List (Alarm (DebounceAlarm α))} {due timer : Nat}
  {payload : α}

/-- A delivery that begins is noted with its time. -/
theorem begun_begin (d : Debounced α) (payload : α) :
    (d.begin payload).begun = d.begun ++ [(d.now, payload)] := List.filterMap_append

theorem ended_begin (d : Debounced α) (payload : α) : (d.begin payload).ended = d.ended := by
  show (d.moments ++ [_]).filterMap _ = _
  rw [List.filterMap_append]
  exact List.append_nil _

theorem begun_finish (d : Debounced α) (payload : α) : (d.finish payload).begun = d.begun := by
  show (d.moments ++ [_]).filterMap _ = _
  rw [List.filterMap_append]
  exact List.append_nil _

/-- The end of a delivery is noted with its time. -/
theorem ended_finish (d : Debounced α) (payload : α) :
    (d.finish payload).ended = d.ended ++ [(d.now, payload)] := List.filterMap_append

/-! ### Telling timers to stop -/

/-- A timer runs unless it was told to stop. -/
theorem runs_iff {b : Debouncer α} : b.runs timer = true ↔ timer ∉ b.stopped := by
  simp [Debouncer.runs]

/-- The timer of the slot is that of the payload that waits there. -/
theorem timer?_eq_some {b : Debouncer α} :
    b.timer? = some timer ↔ ∃ due payload, b.slot = .pending due payload timer := by
  unfold Debouncer.timer?
  cases b.slot <;> simp

/-- To stop means to tell the timer of the slot, if there is one. -/
theorem mem_stopped_stop {b : Debouncer α} :
    timer ∈ b.stop.stopped ↔ b.timer? = some timer ∨ timer ∈ b.stopped := by
  simp [Debouncer.stop, Option.mem_toList]

/-- Two alarms of one timer are the same alarm. -/
theorem Sound.alarm_unique (s : d.Sound) {a b : Alarm (DebounceAlarm α)}
    (ha : a ∈ d.timeline.alarms) (hb : b ∈ d.timeline.alarms)
    (same : a.wakes.timer = b.wakes.timer) : a = b :=
  List.inj_on_of_nodup_map s.distinct ha hb same

/-- The timer of the slot is the latest one. -/
theorem Sound.timer?_known (s : d.Sound) (h : d.debouncer.timer? = some timer) :
    timer = d.debouncer.generation := by
  obtain ⟨_, _, pending⟩ := timer?_eq_some.1 h
  exact (s.slot pending).1

/-- The timer of the slot waits for the end of its window, so a timer that waits
in a delivery is another one. -/
theorem Sound.runs_stop (s : d.Sound)
    (h : ⟨due, .delivery timer payload⟩ ∈ d.timeline.alarms) :
    d.debouncer.stop.runs timer = true := by
  rw [runs_iff, mem_stopped_stop]
  rintro (isSlot | isStopped)
  · obtain ⟨_, _, pending⟩ := timer?_eq_some.1 isSlot
    cases s.alarm_unique h (s.slot pending).2.2 rfl
  · exact runs_iff.1 (s.delivers h) isStopped

/-- Only timers that were set are told to stop. -/
theorem Sound.known_stop (s : d.Sound) (h : timer ∈ d.debouncer.stop.stopped) :
    timer ≤ d.debouncer.generation := by
  rcases mem_stopped_stop.1 h with isSlot | isStopped
  · exact Nat.le_of_eq (s.timer?_known isSlot)
  · exact s.stopped_known timer isStopped

/-! ### Calls and cancellations -/

/-- A call with a window fills the slot and starts a timer. -/
theorem call_eq (pos : 0 < d.debouncer.timeout) (payload : α) :
    d.call payload =
      { d with
        debouncer := { d.debouncer.stop with
          slot := .pending (d.now + d.debouncer.timeout) payload (d.debouncer.generation + 1)
          generation := d.debouncer.generation + 1 }
        timeline := d.timeline.arm (d.now + d.debouncer.timeout)
          (.window (d.debouncer.generation + 1)) } := by
  have isPos : d.debouncer.timeout ≠ 0 := Nat.ne_of_gt pos
  unfold call Debouncer.call
  rw [if_neg isPos]

/-- A call keeps the timers apart: that of the slot is told to stop, and the new one
has a number of its own. -/
theorem Sound.call (s : d.Sound) (pos : 0 < d.debouncer.timeout) (payload : α) :
    (d.call payload).Sound := by
  rw [call_eq pos]
  have known : ∀ a ∈ d.timeline.alarms, a.wakes.timer ≠ d.debouncer.generation + 1 :=
    fun a ha => Nat.ne_of_lt (Nat.lt_succ_of_le (s.known a ha))
  exact
    { ahead := by
        refine List.forall_mem_append.2 ⟨s.ahead, ?_⟩
        simp only [List.forall_mem_singleton]
        exact Nat.le_add_right _ _
      distinct := by
        show ((d.timeline.alarms ++ [_]).map _).Nodup
        rw [List.map_append, List.map_singleton, List.nodup_append]
        refine ⟨s.distinct, List.nodup_singleton _, ?_⟩
        rintro timer h _ hn rfl
        obtain ⟨a, ha, e⟩ := List.mem_map.1 h
        exact known a ha (e.trans (List.mem_singleton.1 hn))
      known := by
        refine List.forall_mem_append.2 ⟨fun a ha => Nat.le_succ_of_le (s.known a ha), ?_⟩
        simp [DebounceAlarm.timer]
      stopped_known := fun timer h => Nat.le_succ_of_le (s.known_stop h)
      slot := by
        rintro due p timer h
        cases h
        refine ⟨rfl, runs_iff.2 fun h => ?_, List.mem_append_right _ (List.mem_singleton.2 rfl)⟩
        exact Nat.not_succ_le_self _ (s.known_stop h)
      delivers := by
        intro due timer p h
        rcases List.mem_append.1 h with h | h
        · exact s.runs_stop h
        · cases List.mem_singleton.1 h
      begun_past := s.begun_past
      ended_past := s.ended_past
      ends := by
        have same : Debounced.ends (d.timeline.arm (d.now + d.debouncer.timeout)
            (.window (d.debouncer.generation + 1))).alarms = Debounced.ends d.timeline.alarms :=
          (ends_append _ _).trans (List.append_nil _)
        show (d.ended ++ _).Perm _
        rw [same]
        exact s.ends }

/-- What a cancellation leaves. -/
theorem cancel_eq (d : Debounced α) :
    d.cancel.2 = d ∧ d.waiting = none ∨
      d.cancel.2 =
        { d with
          debouncer := { d.debouncer.stop with
            slot := .idle
            generation := d.debouncer.generation + 1 } } := by
  unfold cancel Debouncer.cancel waiting
  cases d.debouncer.slot with
  | pending due payload timer => exact .inr rfl
  | idle => exact .inl ⟨rfl, rfl⟩
  | fired => exact .inl ⟨rfl, rfl⟩

/-- A cancellation tells the timer of the slot to stop and sets none. -/
theorem Sound.cancel (s : d.Sound) : d.cancel.2.Sound := by
  rcases cancel_eq d with ⟨e, -⟩ | e
  · rwa [e]
  · rw [e]
    exact
      { ahead := s.ahead
        distinct := s.distinct
        known := fun a ha => Nat.le_succ_of_le (s.known a ha)
        stopped_known := fun timer h => Nat.le_succ_of_le (s.known_stop h)
        slot := fun h => by cases h
        delivers := fun h => s.runs_stop h
        begun_past := s.begun_past
        ended_past := s.ended_past
        ends := s.ends }

/-! ### Alarms that go off -/

/-- A timer takes the payload only in its own generation, told to stop or not. -/
theorem Sound.collect_eq_none (s : d.Sound) (gone : d.debouncer.timer? ≠ some timer) :
    d.debouncer.collect timer = none := by
  unfold Debouncer.collect
  cases hs : d.debouncer.slot with
  | pending due payload own =>
    have isLast : own = d.debouncer.generation := (s.slot hs).1
    refine if_neg fun same => gone ?_
    exact timer?_eq_some.2 ⟨due, payload, hs.trans (by rw [isLast, same])⟩
  | idle => rfl
  | fired => rfl

/-- The clock moves to an alarm, and the other alarms stay. -/
def movedTo (d : Debounced α) (due : Nat) (others : List (Alarm (DebounceAlarm α))) : Debounced α :=
  { d with timeline := ⟨due, others⟩ }

/-- The payload that waits is taken, and its delivery begins. It may set an alarm
for its end. -/
def takeUp (d : Debounced α) (timer : Nat) (payload : α) : Debounced α :=
  { d with
    debouncer := { d.debouncer with slot := .fired }
    moments := d.moments ++ [.begun d.now payload]
    timeline := { d.timeline with
      alarms := d.timeline.alarms ++
        (d.delivery.wakesAt? d.now payload).toList.map (⟨·, .delivery timer payload⟩) } }

/-- A timer that takes its payload begins a delivery. -/
theorem begun_takeUp (d : Debounced α) (timer : Nat) (payload : α) :
    (d.takeUp timer payload).begun = d.begun ++ [(d.now, payload)] := begun_begin d payload

theorem ended_takeUp (d : Debounced α) (timer : Nat) (payload : α) :
    (d.takeUp timer payload).ended = d.ended := ended_begin d payload

/-- A delivery that takes time plans its end, with the alarm that it sets. -/
theorem ends_delivery (delivery : Delivery α) (time timer : Nat) (payload : α) :
    ends ((delivery.wakesAt? time payload).toList.map (⟨·, .delivery timer payload⟩)) =
      (delivery.end? (time, payload)).toList := by
  unfold Delivery.end?
  cases delivery.wakesAt? time payload <;> rfl

/-- What comes of an alarm that is due at some time and leaves the other alarms. -/
inductive Fired (d : Debounced α) (due : Nat) (others : List (Alarm (DebounceAlarm α))) :
    DebounceAlarm α → Debounced α → Prop
  /-- The window of the payload that waits has ended. -/
  | begins {payload : α} {timer : Nat} (waits : d.debouncer.slot = .pending due payload timer) :
    Fired d due others (.window timer) ((d.movedTo due others).takeUp timer payload)
  /-- The window of a timer of an earlier generation has ended. -/
  | lapses {timer : Nat} (gone : d.debouncer.timer? ≠ some timer) :
    Fired d due others (.window timer) (d.movedTo due others)
  | ends {timer : Nat} {payload : α} :
    Fired d due others (.delivery timer payload) ((d.movedTo due others).finish payload)

/-- A delivery sets an alarm for its end if it waits. -/
theorem deliver_eq (d : Debounced α) (timer : Nat) (payload : α) :
    d.deliver timer payload =
      { d with
        moments := d.moments ++ [.begun d.now payload]
        timeline := { d.timeline with
          alarms := d.timeline.alarms ++
            (d.delivery.wakesAt? d.now payload).toList.map (⟨·, .delivery timer payload⟩) } } := by
  unfold deliver
  cases d.delivery.wakesAt? d.now payload with
  | some due => rfl
  | none =>
    simp only [Option.toList_none, List.map_nil, List.append_nil]
    rfl

/-- Only the timer of the slot begins a delivery, and all that wait in one end
it. -/
theorem Sound.fired {wakes : DebounceAlarm α} (s : d.Sound)
    (isSet : ⟨due, wakes⟩ ∈ d.timeline.alarms) :
    Fired d due others wakes ((d.movedTo due others).fire wakes) := by
  cases wakes with
  | window timer =>
    by_cases current : d.debouncer.timer? = some timer
    · obtain ⟨due', payload, pending⟩ := timer?_eq_some.1 current
      obtain ⟨isLast, runs, isSet'⟩ := s.slot pending
      -- The timer has one alarm, so this is the one set for the deadline.
      obtain rfl : due' = due := congrArg Alarm.due (s.alarm_unique isSet' isSet rfl)
      have woken : (d.movedTo due' others).debouncer.wake timer =
          some (payload, { d.debouncer with slot := .fired }) := by
        show d.debouncer.wake timer = _
        unfold Debouncer.wake Debouncer.collect
        rw [if_pos runs, pending]
        exact if_pos isLast.symm
      have begins : (d.movedTo due' others).fire (.window timer) =
          (d.movedTo due' others).takeUp timer payload := by
        unfold fire
        simp only [woken]
        exact deliver_eq { d.movedTo due' others with
          debouncer := { d.debouncer with slot := .fired } } timer payload
      rw [begins]
      exact .begins pending
    · have woken : (d.movedTo due others).debouncer.wake timer = none := by
        show d.debouncer.wake timer = none
        unfold Debouncer.wake
        rw [s.collect_eq_none current, ite_self]
      have lapses : (d.movedTo due others).fire (.window timer) = d.movedTo due others := by
        unfold fire
        simp only [woken]
      rw [lapses]
      exact .lapses current
  | delivery timer payload =>
    have ends : (d.movedTo due others).fire (.delivery timer payload) =
        (d.movedTo due others).finish payload := if_pos (s.delivers isSet)
    rw [ends]
    exact .ends

/-- An alarm was the next one, and the others come after it. -/
structure Next (d : Debounced α) (due : Nat) (wakes : DebounceAlarm α)
    (others : List (Alarm (DebounceAlarm α))) : Prop where
  perm : d.timeline.alarms.Perm (⟨due, wakes⟩ :: others)
  least : ∀ a ∈ others, due ≤ a.due
  now_le : d.now ≤ due

/-- The next alarm is due at a time that the clock moves to. -/
theorem Sound.next {limit : Nat} {wakes : DebounceAlarm α} {rest : Timeline (DebounceAlarm α)}
    (s : d.Sound) (h : d.timeline.take? limit = some (wakes, rest)) :
    ∃ due, due ≤ limit ∧ rest = ⟨due, rest.alarms⟩ ∧ Next d due wakes rest.alarms := by
  obtain ⟨due, isDue, perm, least, now_eq⟩ := Timeline.take?_eq_some h
  have now_le : d.now ≤ due := s.ahead ⟨due, wakes⟩ (perm.mem_iff.2 List.mem_cons_self)
  have now_eq : rest.now = due := now_eq.trans (Nat.max_eq_right now_le)
  exact ⟨due, isDue, by rw [← now_eq], perm, least, now_le⟩

namespace Next

variable {wakes : DebounceAlarm α}

/-- The next alarm is one of those that were set. -/
theorem mem (n : Next d due wakes others) : ⟨due, wakes⟩ ∈ d.timeline.alarms :=
  n.perm.mem_iff.2 List.mem_cons_self

/-- The others were set as well. -/
theorem mem_of_other (n : Next d due wakes others) {a : Alarm (DebounceAlarm α)}
    (h : a ∈ others) : a ∈ d.timeline.alarms := n.perm.mem_iff.2 (List.mem_cons_of_mem _ h)

/-- The timers of the other alarms are other ones. -/
theorem distinct (n : Next d due wakes others) (s : d.Sound) :
    wakes.timer ∉ others.map (fun a => a.wakes.timer) ∧
      (others.map fun a => a.wakes.timer).Nodup := by
  have all := (n.perm.map fun a => a.wakes.timer).nodup_iff.1 s.distinct
  rw [List.map_cons] at all
  exact List.nodup_cons.1 all

/-- What lies in the past still does when the clock moves on. -/
theorem past (n : Next d due wakes others) {l : List (Nat × α)} (h : ∀ b ∈ l, b.1 ≤ d.now) :
    ∀ b ∈ l, b.1 ≤ due := fun b hb => Nat.le_trans (h b hb) n.now_le

/-- The ends that are planned stay the same when the clock moves on. -/
theorem ends (n : Next d due wakes others) (s : d.Sound) :
    (d.ended ++ ((wakes.payload?.map (due, ·)).toList ++ Debounced.ends others)).Perm
      (d.begun.filterMap d.delivery.end?) := by
  refine .trans (.append_left _ ?_) s.ends
  refine .trans ?_ (n.perm.filterMap _).symm
  rw [List.filterMap_cons]
  cases wakes with
  | window timer => exact .refl _
  | delivery timer payload => exact .refl _

/-- An alarm that is not the one of the slot leaves that one. -/
theorem slot (n : Next d due wakes others) (s : d.Sound) {due' : Nat} {own : Nat}
    (h : d.debouncer.slot = .pending due' payload own) (ne : wakes ≠ .window own) :
    own = d.debouncer.generation ∧ d.debouncer.runs own = true ∧
      ⟨due', .window own⟩ ∈ others := by
  obtain ⟨isLast, runs, isSet⟩ := s.slot h
  refine ⟨isLast, runs, ?_⟩
  rcases List.mem_cons.1 (n.perm.mem_iff.1 isSet) with e | isSet
  · exact absurd (congrArg Alarm.wakes e).symm ne
  · exact isSet

end Next

/-- The clock may move to the next alarm. -/
theorem Sound.lapse {wakes : DebounceAlarm α} (s : d.Sound) (n : Next d due wakes others)
    (ne : ∀ own, d.debouncer.timer? = some own → wakes ≠ .window own)
    (noPayload : wakes.payload? = none) : (d.movedTo due others).Sound where
  ahead := n.least
  distinct := (n.distinct s).2
  known := fun a ha => s.known a (n.mem_of_other ha)
  stopped_known := s.stopped_known
  slot := fun h => n.slot s h (ne _ (timer?_eq_some.2 ⟨_, _, h⟩))
  delivers := fun h => s.delivers (n.mem_of_other h)
  begun_past := n.past s.begun_past
  ended_past := n.past s.ended_past
  ends := by
    have ends := n.ends s
    rw [noPayload] at ends
    exact ends

/-- The end of a delivery keeps the timers as they were. -/
theorem Sound.finish {timer : Nat} (s : d.Sound)
    (n : Next d due (.delivery timer payload) others) :
    ((d.movedTo due others).finish payload).Sound where
  ahead := n.least
  distinct := (n.distinct s).2
  known := fun a ha => s.known a (n.mem_of_other ha)
  stopped_known := s.stopped_known
  slot := fun h => n.slot s h (fun e => by cases e)
  delivers := fun h => s.delivers (n.mem_of_other h)
  begun_past := by
    rw [begun_finish]
    exact n.past s.begun_past
  ended_past := by
    rw [ended_finish]
    refine List.forall_mem_append.2 ⟨n.past s.ended_past, ?_⟩
    simp only [List.forall_mem_singleton]
    exact Nat.le_refl due
  ends := by
    rw [begun_finish, ended_finish, List.append_assoc]
    exact n.ends s

/-- A timer that takes its payload empties the slot, and waits in its delivery if that
takes time. -/
theorem Sound.takeUp {timer : Nat} (s : d.Sound) (n : Next d due (.window timer) others)
    (waits : d.debouncer.slot = .pending due payload timer) :
    ((d.movedTo due others).takeUp timer payload).Sound := by
  obtain ⟨other, distinct⟩ := n.distinct s
  obtain ⟨isLast, runs, -⟩ := s.slot waits
  -- The one alarm that may be new is that for the end of the delivery.
  have later : ∀ {a : Alarm (DebounceAlarm α)},
      a ∈ (d.delivery.wakesAt? due payload).toList.map
        (fun w => (⟨w, .delivery timer payload⟩ : Alarm (DebounceAlarm α))) →
      due ≤ a.due ∧ a.wakes = .delivery timer payload := by
    intro a ha
    obtain ⟨w, hw, rfl⟩ := List.mem_map.1 ha
    exact ⟨Delivery.le_of_wakesAt? (Option.mem_toList.1 hw), rfl⟩
  exact
    { ahead := List.forall_mem_append.2 ⟨n.least, fun a ha => (later ha).1⟩
      distinct := by
        show ((others ++ (d.delivery.wakesAt? due payload).toList.map _).map _).Nodup
        rw [List.map_append, List.nodup_append]
        refine ⟨distinct, ?_, ?_⟩
        · cases d.delivery.wakesAt? due payload <;> simp
        · rintro n h m hm rfl
          obtain ⟨a, ha, rfl⟩ := List.mem_map.1 hm
          rw [(later ha).2] at h
          exact other h
      known := by
        refine List.forall_mem_append.2 ⟨fun a ha => s.known a (n.mem_of_other ha), fun a ha => ?_⟩
        rw [(later ha).2]
        exact Nat.le_of_eq isLast
      stopped_known := s.stopped_known
      slot := fun h => by cases h
      delivers := by
        intro w m p h
        rcases List.mem_append.1 h with h | h
        · exact s.delivers (n.mem_of_other h)
        · cases (later h).2
          exact runs
      begun_past := by
        rw [begun_takeUp]
        refine List.forall_mem_append.2 ⟨n.past s.begun_past, ?_⟩
        simp only [List.forall_mem_singleton]
        exact Nat.le_refl due
      ended_past := by
        rw [ended_takeUp]
        exact n.past s.ended_past
      ends := by
        rw [begun_takeUp, ended_takeUp, List.filterMap_append]
        show (d.ended ++ Debounced.ends (others ++ _)).Perm (_ ++ [(due, payload)].filterMap _)
        rw [ends_append, ends_delivery, ← List.append_assoc]
        refine (n.ends s).append (.of_eq ?_)
        rw [List.filterMap_cons]
        cases d.delivery.end? (due, payload) <;> rfl }

/-- An alarm that goes off leaves everything sound. -/
theorem Sound.fire {wakes : DebounceAlarm α} (s : d.Sound) (n : Next d due wakes others)
    (f : Fired d due others wakes d') : d'.Sound := by
  cases f with
  | begins waits => exact s.takeUp n waits
  | lapses gone => exact s.lapse n (fun own isSlot e => gone (by cases e; exact isSlot)) rfl
  | ends => exact s.finish n

/-- An alarm that goes off leaves the clock at its time. -/
theorem Fired.now_eq {wakes : DebounceAlarm α} (f : Fired d due others wakes d') :
    d'.now = due := by
  cases f <;> rfl

/-! ### What is the same afterwards -/

/-- What letting alarms go off does not change. -/
structure Passed (d d' : Debounced α) : Prop where
  promised : d'.promised = d.promised
  delivery : d'.delivery = d.delivery
  timeout : d'.debouncer.timeout = d.debouncer.timeout
  generation : d'.debouncer.generation = d.debouncer.generation
  timer : ∀ timer, d'.debouncer.timer? = some timer → d.debouncer.timer? = some timer
  now_le : d.now ≤ d'.now

theorem passed_refl (d : Debounced α) : Passed d d :=
  ⟨rfl, rfl, rfl, rfl, fun _ h => h, Nat.le_refl _⟩

/-- What is the same after one stretch of time and after the next is the same after
both. -/
theorem Passed.trans {d'' : Debounced α} (p : Passed d d') (q : Passed d' d'') : Passed d d'' where
  promised := q.promised.trans p.promised
  delivery := q.delivery.trans p.delivery
  timeout := q.timeout.trans p.timeout
  generation := q.generation.trans p.generation
  timer := fun timer h => p.timer timer (q.timer timer h)
  now_le := Nat.le_trans p.now_le q.now_le

/-- A payload that is delivered is the one that waited, at the time when it was
due. -/
theorem Fired.passed {wakes : DebounceAlarm α} (f : Fired d due others wakes d')
    (n : Next d due wakes others) : Passed d d' := by
  cases f with
  | @begins payload timer waits =>
    refine ⟨?_, rfl, rfl, rfl, fun _ h => (by cases h), n.now_le⟩
    have waiting : d.waiting = some (due, payload) := by
      unfold waiting
      rw [waits]
    unfold promised
    rw [waiting, begun_takeUp]
    exact List.append_nil _
  | lapses gone => exact ⟨rfl, rfl, rfl, rfl, fun _ h => h, n.now_le⟩
  | @ends timer payload =>
    refine ⟨?_, rfl, rfl, rfl, fun _ h => h, n.now_le⟩
    unfold promised
    rw [begun_finish]
    rfl

/-! ### All alarms that are due -/

/-- The work is that of all alarms together. -/
theorem work_eq (d : Debounced α) :
    d.work = (d.timeline.alarms.map fun a => a.wakes.work).sum := by
  unfold work
  rw [List.sum_eq_foldr, List.foldr_map]

/-- An alarm that goes off leaves less work. -/
theorem Fired.work_lt {wakes : DebounceAlarm α} (f : Fired d due others wakes d')
    (n : Next d due wakes others) : d'.work < d.work := by
  have before : d.work = wakes.work + (others.map fun a => a.wakes.work).sum := by
    rw [work_eq, (n.perm.map fun a => a.wakes.work).sum_eq, List.map_cons, List.sum_cons]
  rw [before, work_eq]
  cases f with
  | @begins payload timer waits =>
    have after : ((d.movedTo due others).takeUp timer payload).timeline.alarms =
        others ++ (d.delivery.wakesAt? due payload).toList.map (⟨·, .delivery timer payload⟩) :=
      rfl
    rw [after, List.map_append, List.sum_append, Nat.add_comm]
    refine Nat.add_lt_add_right ?_ _
    cases d.delivery.wakesAt? due payload <;> simp [DebounceAlarm.work]
  | lapses gone =>
    show (others.map _).sum < _
    simp [DebounceAlarm.work]
  | ends =>
    show (others.map _).sum < _
    simp [DebounceAlarm.work]

/-- Another alarm goes off, or none is due. -/
theorem fireUpTo_succ (limit fuel : Nat) (d : Debounced α) :
    (d.timeline.take? limit = none ∧ fireUpTo limit (fuel + 1) d = d) ∨
      ∃ wakes rest, d.timeline.take? limit = some (wakes, rest) ∧
        fireUpTo limit (fuel + 1) d =
          fireUpTo limit fuel ({ d with timeline := rest }.fire wakes) := by
  cases taken : d.timeline.take? limit with
  | none => exact .inl ⟨rfl, by simp only [fireUpTo, taken]⟩
  | some p => exact .inr ⟨p.1, p.2, rfl, by simp only [fireUpTo, taken]⟩

/-- One alarm after another goes off. -/
theorem Sound.next_fired {limit : Nat} {wakes : DebounceAlarm α}
    {rest : Timeline (DebounceAlarm α)} (s : d.Sound)
    (taken : d.timeline.take? limit = some (wakes, rest)) :
    ∃ due, due ≤ limit ∧ Next d due wakes rest.alarms ∧
      Fired d due rest.alarms wakes ({ d with timeline := rest }.fire wakes) := by
  obtain ⟨due, isDue, rest_eq, n⟩ := s.next taken
  refine ⟨due, isDue, n, ?_⟩
  rw [rest_eq]
  exact s.fired n.mem

/-- All alarms that are due go off, one after another, and the timers stay apart. -/
theorem Sound.fireUpTo {limit : Nat} (fuel : Nat) (s : d.Sound) (le : d.now ≤ limit) :
    (fireUpTo limit fuel d).Sound ∧ Passed d (fireUpTo limit fuel d) ∧
      (fireUpTo limit fuel d).now ≤ limit := by
  -- One alarm after another; each keeps what the next one needs.
  induction fuel generalizing d with
  | zero => exact ⟨s, passed_refl d, le⟩
  | succ fuel ih =>
    rcases fireUpTo_succ limit fuel d with ⟨-, e⟩ | ⟨wakes, rest, taken, e⟩
    · rw [e]
      exact ⟨s, passed_refl d, le⟩
    · rw [e]
      obtain ⟨due, isDue, n, f⟩ := s.next_fired taken
      have now_le : ({ d with timeline := rest }.fire wakes).now ≤ limit :=
        Nat.le_trans (Nat.le_of_eq (f.now_eq)) isDue
      obtain ⟨sound, passed, le'⟩ := ih (s.fire n f) now_le
      exact ⟨sound, (f.passed n).trans passed, le'⟩

/-- With fuel for all work, no alarm that is due is left. -/
theorem Sound.exhausted {fuel : Nat} (s : d.Sound) (limit : Nat) (enough : d.work ≤ fuel) :
    ∀ a ∈ (Debounced.fireUpTo limit fuel d).timeline.alarms, limit < a.due := by
  induction fuel generalizing d with
  | zero =>
    intro a ha
    have noWork : (d.timeline.alarms.map fun a => a.wakes.work).sum = 0 := by
      rw [← work_eq]
      exact Nat.le_zero.1 enough
    have some_ : a.wakes.work ≤ 0 := noWork ▸ List.le_sum_of_mem (List.mem_map_of_mem ha)
    cases hw : a.wakes <;> simp [hw, DebounceAlarm.work] at some_
  | succ fuel ih =>
    rcases fireUpTo_succ limit fuel d with ⟨none_, e⟩ | ⟨wakes, rest, taken, e⟩
    · rw [e]
      exact Timeline.take?_eq_none none_
    · rw [e]
      obtain ⟨due, -, n, f⟩ := s.next_fired taken
      exact ih (s.fire n f) (Nat.le_of_lt_succ (Nat.lt_of_lt_of_le (f.work_lt n) enough))

/-- All alarms are yet to come. -/
def Rested (d : Debounced α) : Prop := ∀ a ∈ d.timeline.alarms, d.now < a.due

/-- Time that passes lets all go off that is due by then. -/
theorem Sound.advance (s : d.Sound) (milliseconds : Nat) :
    (d.advance milliseconds).Sound ∧ Passed d (d.advance milliseconds) ∧
      (d.advance milliseconds).Rested := by
  have le : d.now ≤ d.timeline.target milliseconds := Timeline.le_target _ _
  obtain ⟨sound, passed, now_le⟩ := s.fireUpTo d.work le
  have later := s.exhausted (d.timeline.target milliseconds) (Nat.le_refl d.work)
  have now_eq : (d.advance milliseconds).now = d.timeline.target milliseconds :=
    Nat.max_eq_right now_le
  have moved : (Debounced.fireUpTo (d.timeline.target milliseconds) d.work d).now ≤
      (d.advance milliseconds).now := now_eq ▸ now_le
  refine ⟨?_, ?_, fun a ha => now_eq ▸ later a ha⟩
  · exact
      { sound with
        ahead := fun a ha => Nat.le_of_lt (now_eq ▸ later a ha)
        begun_past := fun b hb => Nat.le_trans (sound.begun_past b hb) moved
        ended_past := fun e he => Nat.le_trans (sound.ended_past e he) moved }
  · exact passed.trans ⟨rfl, rfl, rfl, rfl, fun _ h => h, moved⟩

/-! ### Timers of earlier generations -/

/-- The timer was started, and its generation is over. -/
def Stale (timer : Nat) (d : Debounced α) : Prop :=
  timer ≤ d.debouncer.generation ∧ d.debouncer.timer? ≠ some timer

/-- A timer of an earlier generation is never the latest one again. -/
theorem Stale.passed (h : Stale timer d) (p : Passed d d') : Stale timer d' :=
  ⟨p.generation ▸ h.1, fun isSlot => h.2 (p.timer timer isSlot)⟩

theorem Stale.call (h : Stale timer d) (pos : 0 < d.debouncer.timeout) (payload : α) :
    Stale timer (d.call payload) := by
  rw [call_eq pos]
  refine ⟨Nat.le_succ_of_le h.1, fun isSlot => ?_⟩
  cases isSlot
  exact Nat.not_succ_le_self _ h.1

theorem Stale.cancel (h : Stale timer d) : Stale timer d.cancel.2 := by
  rcases cancel_eq d with ⟨e, -⟩ | e
  · rwa [e]
  · rw [e]
    exact ⟨Nat.le_succ_of_le h.1, fun isSlot => by cases isSlot⟩

end Debounced

end HubAutomation
