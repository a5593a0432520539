import HubAutomation.Proofs.Trigger.Dispatches
import HubAutomation.Proofs.Trigger.HandlerSets
import HubAutomation.Proofs.Trigger.Timers

/-!
# Sets, handlers and alarms that fit together

Every step of a dispatcher keeps its set sound and loses no handler. A timer whose
delivery waits is never told to stop, so an alarm for the end of a delivery finds
it running.

- `Debouncer.Delivering`: a timer whose delivery waits is never told to stop.
- `Dispatcher.Keeps`: what every operation keeps.
- `Dispatcher.Sound`: what holds of set, handlers and alarms at every stage.
-/

namespace HubAutomation

/-! ### Timers that deliver -/

namespace Debouncer

variable {α : Type} {b b' : Debouncer α} {timer : Nat}

/-- A timer whose delivery waits was not told to stop, and does not wait for the
end of its window any more. -/
structure Delivering (b : Debouncer α) (timer : Nat) : Prop where
  running : timer ∉ b.stopped
  collected : b.timer? ≠ some timer
  known : timer ≤ b.generation

/-- A timer that delivers runs. -/
theorem Delivering.runs (h : b.Delivering timer) : b.runs timer = true := by
  unfold Debouncer.runs
  simpa using h.running

/-- Who stops a window does not stop a delivery. -/
theorem Delivering.not_mem_stop (h : b.Delivering timer) : timer ∉ b.stop.stopped := by
  show timer ∉ b.timer?.toList ++ b.stopped
  rw [List.mem_append, not_or]
  refine ⟨fun isSlot => ?_, h.running⟩
  exact h.collected (Option.mem_toList.1 isSlot)

/-- A cancellation does not reach a delivery that waits. -/
theorem Delivering.cancel (h : b.Delivering timer) : b.cancel.2.Delivering timer := by
  unfold Debouncer.cancel
  split
  · refine ⟨h.not_mem_stop, ?_, Nat.le_succ_of_le h.known⟩
    exact nofun
  · exact h

/-- A call opens a window of its own and leaves deliveries alone. -/
theorem Delivering.call (h : b.Delivering timer) (now : Nat) (payload : α) :
    (b.call now payload).1.Delivering timer := by
  unfold Debouncer.call
  split
  · refine ⟨h.running, ?_, h.known⟩
    exact nofun
  · refine ⟨h.not_mem_stop, fun isNew => ?_, Nat.le_succ_of_le h.known⟩
    have isNew : b.generation + 1 = timer := Option.some.inj isNew
    have known := h.known
    omega

/-- A timer that takes the payload begins to deliver, and the others go on. -/
theorem delivering_wake {payload : α} (woken : b.wake timer = some (payload, b')) :
    b'.Delivering timer ∧ (∀ {other : Nat}, b.Delivering other → b'.Delivering other) ∧
      b.isPending = true := by
  unfold Debouncer.wake at woken
  split at woken
  · rename_i runs
    unfold collect at woken
    split at woken
    · rename_i slot
      split at woken
      · rename_i last
        cases woken
        refine ⟨⟨?_, nofun, Nat.le_of_eq last.symm⟩, fun h => ?_, ?_⟩
        · unfold Debouncer.runs at runs
          simpa using runs
        · exact ⟨h.running, nofun, h.known⟩
        · unfold isPending phase
          rw [slot]
          rfl
      · cases woken
    · cases woken
  · cases woken

end Debouncer

/-- An event that a handler meets leaves its deliveries alone. -/
theorem TriggerHandler.delivering_meet {h : TriggerHandler} {timer : Nat}
    (delivering : h.debouncer.Delivering timer) (now : Nat) (event : Event StateChange) :
    (h.meet now event).handler.debouncer.Delivering timer := by
  unfold meet
  split
  · exact delivering
  · exact delivering
  · exact delivering.cancel
  · exact delivering.cancel.call now event

namespace Dispatcher

variable {d d' d'' : Dispatcher} {serial : Nat} {s t : Stage} {marks : List Mark}

/-! ### What every operation keeps -/

/-- The set stays sound, no handler is lost, timers that deliver go on, and a
handler that is out of the set does not come back. -/
structure Keeps (d d' : Dispatcher) : Prop where
  set : d.set.Sound d.handlers.length → d'.set.Sound d'.handlers.length
  length : d.handlers.length ≤ d'.handlers.length
  delivering : ∀ {serial : Nat} {h : TriggerHandler}, d.handlers[serial]? = some h →
    ∃ h', d'.handlers[serial]? = some h' ∧
      ∀ {timer : Nat}, h.debouncer.Delivering timer → h'.debouncer.Delivering timer
  out : ∀ {serial : Nat}, serial < d.handlers.length → d.set.holds serial = false →
    d'.set.holds serial = false

/-- Operations that touch neither the set nor the handlers keep them. -/
theorem Keeps.of_eq (handlers : d'.handlers = d.handlers) (set : d'.set = d.set) : d.Keeps d' where
  set := by
    rw [handlers, set]
    exact id
  length := by rw [handlers]
  delivering := by
    intro serial h at_
    rw [handlers]
    exact ⟨h, at_, id⟩
  out := by
    intro serial lt out
    rw [set]
    exact out

theorem Keeps.refl (d : Dispatcher) : d.Keeps d := .of_eq rfl rfl

theorem Keeps.trans (first : d.Keeps d') (second : d'.Keeps d'') : d.Keeps d'' where
  set := fun sound => second.set (first.set sound)
  length := first.length.trans second.length
  delivering := by
    intro serial h at_
    obtain ⟨h', at', keeps⟩ := first.delivering at_
    obtain ⟨h'', at'', keeps'⟩ := second.delivering at'
    exact ⟨h'', at'', fun delivering => keeps' (keeps delivering)⟩
  out := fun lt out => second.out (lt.trans_le first.length) (first.out lt out)

/-- Only one handler is changed. -/
theorem getElem?_modify (d : Dispatcher) (own serial : Nat) (f : TriggerHandler → TriggerHandler) :
    (d.modify own f).handlers[serial]? =
      if own = serial then d.handlers[serial]?.map f else d.handlers[serial]? := by
  show (d.handlers.modify own f)[serial]? = _
  rw [List.getElem?_modify]
  split <;> simp

theorem length_modify (d : Dispatcher) (own : Nat) (f : TriggerHandler → TriggerHandler) :
    (d.modify own f).handlers.length = d.handlers.length := List.length_modify ..

/-- A handler may be changed in any way that leaves its deliveries alone. -/
theorem keeps_modify (own : Nat) (f : TriggerHandler → TriggerHandler)
    (delivers : ∀ {h : TriggerHandler} {timer : Nat}, d.handlers[own]? = some h →
      h.debouncer.Delivering timer → (f h).debouncer.Delivering timer) :
    d.Keeps (d.modify own f) where
  set := by
    rw [length_modify]
    exact id
  length := Nat.le_of_eq (length_modify d own f).symm
  delivering := by
    intro serial h at_
    rw [getElem?_modify, at_]
    split
    · rename_i same
      subst same
      exact ⟨f h, rfl, fun delivering => delivers at_ delivering⟩
    · exact ⟨h, rfl, id⟩
  out := fun _ out => out

/-- A handler whose call is cancelled. -/
theorem keeps_cancel (d : Dispatcher) (own : Nat) : d.Keeps (d.cancel own) :=
  keeps_modify own _ fun _ delivering => delivering.cancel

/-- A handler that is attached comes last, so the others keep their places. -/
theorem keeps_attach (d : Dispatcher) (h : TriggerHandler) : d.Keeps (d.attach h) where
  set := by
    intro sound
    show HandlerSet.Sound _ (d.handlers ++ [h]).length
    rw [List.length_append]
    exact sound.attach
  length := by
    show _ ≤ (d.handlers ++ [h]).length
    rw [List.length_append]
    exact Nat.le_add_right _ _
  delivering := by
    intro serial h' at_
    have lt := (List.getElem?_eq_some_iff.1 at_).1
    exact ⟨h', (List.getElem?_append_left lt).trans at_, id⟩
  out := fun lt out => HandlerSet.holds_attach out (Nat.ne_of_lt lt)

/-- A handler that is taken out stays among the handlers, where its deliveries go
on. -/
theorem keeps_detach (d : Dispatcher) (id : Nat) : d.Keeps (d.detach id) := by
  unfold detach
  split
  · rename_i a found
    have taken : d.Keeps { d with set := d.set.detach id } :=
      { set := fun sound => sound.detach id
        length := Nat.le_refl _
        delivering := fun at_ => ⟨_, at_, fun delivering => delivering⟩
        out := fun _ out => HandlerSet.holds_detach out id }
    exact taken.trans (keeps_cancel _ _)
  · exact .refl d

/-- The new handler comes last, and the old one stays among the handlers. -/
theorem keeps_replace (d : Dispatcher) (id : Nat) (h : TriggerHandler) :
    d.Keeps (d.replace id h) := by
  unfold replace
  split
  · rename_i a found
    have added := keeps_attach d h
    have replaced : d.Keeps
        { d with handlers := d.handlers ++ [h], set := d.set.replace id d.handlers.length } :=
      { set := by
          intro sound
          show HandlerSet.Sound _ (d.handlers ++ [h]).length
          rw [List.length_append]
          exact sound.replace id
        length := added.length
        delivering := added.delivering
        out := fun lt out => HandlerSet.holds_replace out id (Nat.ne_of_lt lt) }
    exact replaced.trans (keeps_cancel _ _)
  · exact .refl d

/-- A handler that nobody keeps gives up no more than its window. -/
theorem keeps_release (d : Dispatcher) (a : Attachment) : d.Keeps (d.release a) := by
  unfold release
  split
  · exact .refl d
  · exact keeps_cancel d _

/-- A callback that begins may take a handler out. -/
theorem keeps_start (d : Dispatcher) (own : Nat) (callback : Callback) (event : Event StateChange) :
    d.Keeps (d.start own callback event) := by
  have seen : d.Keeps (d.see own (callback.delivery.start d.now event)) := .of_eq rfl rfl
  unfold start
  dsimp only
  split
  · exact seen.trans (keeps_detach _ _)
  · exact seen

/-- A handler that meets an event. -/
theorem keeps_met {a : Attachment} {h : TriggerHandler} (at_ : d.handlers[a.serial]? = some h)
    (event : Event StateChange) : d.Keeps (d.met a h event) := by
  refine keeps_modify _ _ fun {h' timer} at' delivering => ?_
  obtain rfl : h = h' := Option.some.inj (at_.symm.trans at')
  exact TriggerHandler.delivering_meet delivering d.now event

/-- A timer that delivers. -/
theorem keeps_deliver (d : Dispatcher) (own timer : Nat) (callback : Callback)
    (event : Event StateChange) : d.Keeps (d.deliver own timer callback event) := by
  have starts := keeps_start d own callback event
  unfold deliver
  dsimp only
  split
  · exact starts.trans (.of_eq rfl rfl)
  · exact starts

/-- A timer that wakes up takes its payload. -/
theorem keeps_wake {own timer : Nat} {h : TriggerHandler} {event : Event StateChange}
    {debouncer : Debouncer (Event StateChange)} (at_ : d.handlers[own]? = some h)
    (woken : h.debouncer.wake timer = some (event, debouncer)) :
    d.Keeps (d.modify own fun h => { h with debouncer }) := by
  refine keeps_modify _ _ fun {h' other} at' delivering => ?_
  obtain rfl : h = h' := Option.some.inj (at_.symm.trans at')
  exact (Debouncer.delivering_wake woken).2.1 delivering

/-- A turn of a dispatch. -/
theorem Turn.keeps {r : Running} {a : Attachment} {rest : List Attachment}
    (turn : Turn d r a rest marks t) : d.Keeps t.dispatcher := by
  cases turn with
  | missing => exact .refl d
  | quiet at_ effect => exact (keeps_met at_ r.event).trans (keeps_release _ a)
  | @opens h due timer at_ effect =>
    have armed : (d.met a h r.event).Keeps
        ((d.met a h r.event).arm due (.window a.serial timer)) := .of_eq rfl rfl
    exact ((keeps_met at_ r.event).trans armed).trans (keeps_release _ a)
  | calls at_ effect atOnce =>
    have met := keeps_met at_ r.event
    exact (met.trans (keeps_start _ _ _ _)).trans (keeps_release _ a)
  | holdsUp at_ effect wakes =>
    have met := keeps_met at_ r.event
    exact (met.trans (keeps_start _ _ _ _)).trans (.of_eq rfl rfl)

/-- An alarm that rings. -/
theorem Ring.keeps {alarm : HandlerAlarm} (ring : Ring d alarm marks t) : d.Keeps t.dispatcher := by
  cases ring with
  | lapses gone => exact .refl d
  | delivers at_ woken => exact (keeps_wake at_ woken).trans (keeps_deliver _ _ _ _ _)
  | ends runs => exact .of_eq rfl rfl
  | stops stopped => exact .refl d
  | @resumes callback x =>
    have finished : d.Keeps (d.finish x.current.serial callback x.event) := .of_eq rfl rfl
    exact finished.trans (keeps_release _ _)

/-- Who collects a report takes it off the list, and does nothing else. -/
theorem eq_of_takeReport? {owner : DispatchOwner} {report : DispatchReport}
    (taken : d.takeReport? owner = some (report, d')) :
    d' = { d with reports := d.reports.filter fun r => r.1 ≠ owner } := by
  unfold takeReport? at taken
  obtain ⟨r, -, e⟩ := Option.map_eq_some_iff.1 taken
  exact (congrArg Prod.snd e).symm

/-- Every step keeps what was there. -/
theorem Step.keeps (step : Step s marks t) : s.dispatcher.Keeps t.dispatcher := by
  cases step with
  | attach rules timeout callback => exact keeps_attach _ _
  | detach id => exact keeps_detach _ _
  | replace id rules timeout callback => exact keeps_replace _ _ _
  | begin owner event idle => exact .refl _
  | collect taken =>
    rw [eq_of_takeReport? taken]
    exact .of_eq rfl rfl
  | wait limit ahead => exact .of_eq rfl rfl
  | @ring d alarm timeline marks stage next ring =>
    have moved : d.Keeps { d with timeline } := .of_eq rfl rfl
    exact moved.trans ring.keeps
  | turn first turn => exact turn.keeps
  | closes done => exact .of_eq rfl rfl

/-! ### Soundness -/

/-- Set, handlers and alarms fit together. -/
structure Sound (s : Stage) : Prop where
  /-- No alarm was missed. -/
  ahead : ∀ a ∈ s.dispatcher.timeline.alarms, s.dispatcher.now ≤ a.due
  set : s.dispatcher.set.Sound s.dispatcher.handlers.length
  /-- At most one dispatch is under way. -/
  one : s.running.toList.length + s.dispatcher.underWay.length ≤ 1
  /-- A timer that waits in a delivery will go on. -/
  delivering : ∀ a ∈ s.dispatcher.timeline.alarms, ∀ {serial timer : Nat} {callback : Callback}
    {event : Event StateChange}, a.wakes = .delivery serial timer callback event →
      ∃ h, s.dispatcher.handlers[serial]? = some h ∧ h.debouncer.Delivering timer

/-- A new set has neither handlers nor alarms. -/
theorem sound_new (now : Nat) : Sound ⟨new now, none⟩ where
  ahead := fun _ h => absurd h List.not_mem_nil
  set := ⟨List.nodup_nil, fun _ h => absurd h List.not_mem_nil, List.nodup_nil,
    fun _ h => absurd h List.not_mem_nil⟩
  one := Nat.zero_le _
  delivering := fun _ h => absurd h List.not_mem_nil

/-- Operations that leave the alarms leave a stage sound. -/
theorem Sound.keep (sound : Sound s) (keeps : s.dispatcher.Keeps t.dispatcher)
    (timeline : t.dispatcher.timeline = s.dispatcher.timeline)
    (one : t.running.toList.length + s.dispatcher.underWay.length ≤ 1) : Sound t where
  ahead := by
    have ahead := sound.ahead
    unfold now at ahead ⊢
    rw [timeline]
    exact ahead
  set := keeps.set sound.set
  one := by
    rw [underWay_congr timeline]
    exact one
  delivering := by
    intro a mem serial timer callback event isDelivery
    rw [timeline] at mem
    obtain ⟨h, at_, delivering⟩ := sound.delivering a mem isDelivery
    obtain ⟨h', at', keeps⟩ := keeps.delivering at_
    exact ⟨h', at', keeps delivering⟩

/-- One more alarm. -/
theorem Sound.arm {running running' : Option Running} (sound : Sound ⟨d, running⟩) {due : Nat}
    {alarm : HandlerAlarm} (ahead : d.now ≤ due)
    (one : running'.toList.length + (d.underWay.length + alarm.dispatch?.toList.length) ≤ 1)
    (delivering : ∀ {serial timer : Nat} {callback : Callback} {event : Event StateChange},
      alarm = .delivery serial timer callback event →
        ∃ h, d.handlers[serial]? = some h ∧ h.debouncer.Delivering timer) :
    Sound ⟨d.arm due alarm, running'⟩ where
  ahead := by
    refine List.forall_mem_append.2 ⟨sound.ahead, ?_⟩
    rw [List.forall_mem_singleton]
    exact ahead
  set := sound.set
  one := by
    show running'.toList.length + (d.arm due alarm).underWay.length ≤ 1
    rw [underWay_arm, List.length_append]
    exact one
  delivering := by
    refine List.forall_mem_append.2 ⟨sound.delivering, ?_⟩
    rw [List.forall_mem_singleton]
    exact delivering

/-- The next alarm is taken, and it is then what the clock shows. -/
theorem Sound.next {alarm : HandlerAlarm} {timeline : Timeline HandlerAlarm}
    (sound : Sound ⟨d, none⟩) (next : d.timeline.takeNext? = some (alarm, timeline)) :
    Sound ⟨{ d with timeline }, none⟩ ∧
      d.timeline.alarms.Perm (⟨timeline.now, alarm⟩ :: timeline.alarms) := by
  obtain ⟨due, perm, least, now_eq⟩ := Timeline.takeNext?_eq_some next
  have le : d.now ≤ due := sound.ahead _ (perm.mem_iff.2 List.mem_cons_self)
  have isDue : timeline.now = due := now_eq.trans (Nat.max_eq_right le)
  rw [isDue]
  -- No alarm was missed, so the clock moves to the time of this one exactly.
  refine ⟨?_, perm⟩
  have one := sound.one
  have under := (underWay_next next).length_eq
  rw [List.length_append] at under
  exact
    { ahead := by
        intro a mem
        show timeline.now ≤ a.due
        rw [isDue]
        exact least a mem
      set := sound.set
      one := by
        show 0 + { d with timeline }.underWay.length ≤ 1
        have none_ : (none : Option Running).toList.length = 0 := rfl
        dsimp only at one
        omega
      delivering := fun a mem =>
        sound.delivering a (perm.mem_iff.2 (List.mem_cons_of_mem _ mem)) }

/-- A timer that has taken its payload may begin its delivery, as it was not told to
stop. -/
theorem Sound.deliver {own timer : Nat} {callback : Callback} {event : Event StateChange}
    (sound : Sound ⟨d, none⟩)
    (delivering : ∃ h, d.handlers[own]? = some h ∧ h.debouncer.Delivering timer) :
    Sound ⟨d.deliver own timer callback event, none⟩ := by
  have keeps := keeps_start d own callback event
  have starts : Sound ⟨d.start own callback event, none⟩ :=
    sound.keep keeps (timeline_start _ _ _ _) sound.one
  unfold Dispatcher.deliver
  dsimp only
  split
  · rename_i due wakes
    refine starts.arm ?_ ?_ ?_
    · have le : d.now ≤ due := Delivery.le_of_wakesAt? wakes
      unfold now at le ⊢
      rw [timeline_start]
      exact le
    · exact starts.one
    · intro serial timer' callback' event' isDelivery
      cases isDelivery
      obtain ⟨h, at_, delivers⟩ := delivering
      obtain ⟨h', at', keeps⟩ := keeps.delivering at_
      exact ⟨h', at', keeps delivers⟩
  · exact starts

/-- An alarm that rings keeps a stage sound: the one it belongs to is not set any
more, so at most one dispatch is under way. -/
theorem Ring.sound {alarm : HandlerAlarm} (ring : Ring d alarm marks t) (sound : Sound ⟨d, none⟩)
    (one : d.underWay.length + alarm.dispatch?.toList.length ≤ 1) : Sound t := by
  cases ring with
  | lapses gone => exact sound
  | @delivers own timer h event debouncer at_ woken =>
    have wakes : Sound ⟨d.modify own fun h => { h with debouncer }, none⟩ :=
      sound.keep (keeps_wake at_ woken) rfl sound.one
    refine wakes.deliver ⟨{ h with debouncer }, ?_, (Debouncer.delivering_wake woken).1⟩
    rw [getElem?_modify, if_pos rfl, at_]
    rfl
  | ends runs => exact sound.keep (.of_eq rfl rfl) rfl sound.one
  | stops stopped => exact sound
  | @resumes callback x =>
    have keeps : d.Keeps ((d.finish x.current.serial callback x.event).release x.current) :=
      Ring.keeps .resumes
    have one : d.underWay.length + 1 ≤ 1 := one
    refine sound.keep keeps ?_ ?_
    · rw [timeline_release]
      rfl
    · show 1 + d.underWay.length ≤ 1
      omega

/-- A turn keeps a stage sound: what it sets is due later, and a dispatch that it
holds up is not at work any more. -/
theorem Turn.sound {r : Running} {a : Attachment} {rest : List Attachment}
    (turn : Turn d r a rest marks t) (sound : Sound ⟨d, some r⟩) : Sound t := by
  have keeps := turn.keeps
  have one : 1 + d.underWay.length ≤ 1 := sound.one
  cases turn with
  | missing => exact sound.keep keeps rfl one
  | quiet at_ effect =>
    refine sound.keep keeps ?_ one
    rw [timeline_release]
    rfl
  | @opens h due timer at_ effect =>
    have met : Sound ⟨d.met a h r.event, some r⟩ := sound.keep (keeps_met at_ r.event) rfl one
    have armed : Sound ⟨(d.met a h r.event).arm due (.window a.serial timer), some r⟩ :=
      met.arm (TriggerHandler.le_of_meet_window effect) met.one nofun
    exact armed.keep (keeps_release _ a) (timeline_release _ a) armed.one
  | calls at_ effect atOnce =>
    refine sound.keep keeps ?_ one
    rw [timeline_release, timeline_start]
    rfl
  | @holdsUp h due at_ effect wakes =>
    have starts : Sound ⟨(d.met a h r.event).start a.serial h.callback r.event, some r⟩ := by
      refine sound.keep ((keeps_met at_ r.event).trans (keeps_start _ _ _ _)) ?_ one
      rw [timeline_start]
      rfl
    have same : ((d.met a h r.event).start a.serial h.callback r.event).underWay = d.underWay :=
      underWay_congr (timeline_start _ _ _ _)
    refine starts.arm ?_ ?_ nofun
    · have le : d.now ≤ due := Delivery.le_of_wakesAt? wakes
      unfold now at le ⊢
      rw [timeline_start]
      exact le
    · rw [same]
      show 0 + (d.underWay.length + 1) ≤ 1
      omega

/-- Every step leads from sound stages to sound stages. -/
theorem Step.sound (step : Step s marks t) (sound : Sound s) : Sound t := by
  have keeps := step.keeps
  cases step with
  | attach rules timeout callback => exact sound.keep keeps rfl sound.one
  | detach id => exact sound.keep keeps (timeline_detach _ _) sound.one
  | replace id rules timeout callback => exact sound.keep keeps (timeline_replace _ _ _) sound.one
  | @begin d owner event idle =>
    refine sound.keep keeps rfl ?_
    show 1 + d.underWay.length ≤ 1
    rw [idle]
    exact Nat.le_refl _
  | collect taken =>
    rw [eq_of_takeReport? taken] at keeps ⊢
    exact sound.keep keeps rfl sound.one
  | @wait d limit ahead =>
    exact
      { ahead := fun a mem => Nat.max_le.2 ⟨sound.ahead a mem, ahead a mem⟩
        set := sound.set
        one := sound.one
        delivering := sound.delivering }
  | @ring d alarm timeline marks stage next ring =>
    refine ring.sound (sound.next next).1 ?_
    have under := (underWay_next next).length_eq
    have one : 0 + d.underWay.length ≤ 1 := sound.one
    rw [List.length_append] at under
    omega
  | turn first turn => exact turn.sound sound
  | @closes d r done =>
    refine sound.keep keeps rfl ?_
    have one : 1 + d.underWay.length ≤ 1 := sound.one
    show 0 + d.underWay.length ≤ 1
    omega

/-- Every run leads from sound stages to sound stages. -/
theorem Run.sound (run : Run s marks t) (sound : Sound s) : Sound t := by
  induction run with
  | nil => exact sound
  | snoc _ step ih => exact step.sound ih

end Dispatcher

end HubAutomation
