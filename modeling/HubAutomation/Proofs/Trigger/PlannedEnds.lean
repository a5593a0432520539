import HubAutomation.Proofs.Trigger.SoundStages

/-!
# Ends of deliveries

A delivery that takes time sets an alarm for its end, and the alarm finds its
timer running. So what has begun runs to its end, whatever becomes of the
handler.

- `Dispatcher.planned`: the ends that alarms are set for.
- `Run.planned`: what has begun has ended, or an alarm is set for its end.
-/

namespace HubAutomation

/-- The end of a delivery that takes time. -/
structure PlannedEnd where
  due : Nat
  serial : Nat
  callback : Callback
  event : Event StateChange

/-- The end of a delivery that begins and takes time. -/
def Mark.planned? : Mark → Option PlannedEnd
  | .begun _ serial callback time event =>
    (callback.delivery.wakesAt? time event).map (⟨·, serial, callback, event⟩)
  | _ => none

/-- The end that has come. -/
def Mark.end? : Mark → Option PlannedEnd
  | .ended serial callback time event => some ⟨time, serial, callback, event⟩
  | _ => none

namespace Dispatcher

variable {d d' : Dispatcher} {s t : Stage} {marks : List Mark}

/-- The end that an alarm is set for. -/
def planned? (a : Alarm HandlerAlarm) : Option PlannedEnd :=
  match a.wakes with
  | .window _ _ => none
  | .delivery serial _ callback event => some ⟨a.due, serial, callback, event⟩
  | .turn callback x => some ⟨a.due, x.current.serial, callback, x.event⟩

theorem due_of_planned? {a : Alarm HandlerAlarm} {p : PlannedEnd} (h : planned? a = some p) :
    p.due = a.due := by
  unfold planned? at h
  split at h <;> cases h <;> rfl

/-- The ends that alarms are set for. -/
def planned (d : Dispatcher) : List PlannedEnd := d.timeline.alarms.filterMap planned?

/-- Which ends are planned can be told from the alarms. -/
theorem planned_congr (same : d.timeline = d'.timeline) : d.planned = d'.planned := by
  unfold planned
  rw [same]

theorem planned_arm (d : Dispatcher) (due : Nat) (alarm : HandlerAlarm) :
    (d.arm due alarm).planned = d.planned ++ (planned? ⟨due, alarm⟩).toList := by
  show (d.timeline.alarms ++ [_]).filterMap _ = _
  rw [List.filterMap_append]
  cases h : planned? ⟨due, alarm⟩ <;> simp [planned, h]

/-- The next alarm may be set for an end, and the other ends stay planned. -/
theorem planned_next {alarm : HandlerAlarm} {timeline : Timeline HandlerAlarm}
    (sound : Sound ⟨d, none⟩) (next : d.timeline.takeNext? = some (alarm, timeline)) :
    d.planned.Perm ((planned? ⟨timeline.now, alarm⟩).toList ++ { d with timeline }.planned) := by
  have perm := (sound.next next).2
  refine (perm.filterMap _).trans ?_
  rw [List.filterMap_cons]
  cases planned? ⟨timeline.now, alarm⟩ with
  | none => exact .refl _
  | some x => exact .refl _

theorem planned?_detachMarks (d : Dispatcher) (id : Nat) :
    (d.detachMarks id).filterMap Mark.planned? = [] ∧ (d.detachMarks id).filterMap Mark.end? = [] := by
  unfold detachMarks
  cases d.set.find? id <;> exact ⟨rfl, rfl⟩

/-- A callback that begins plans its end, and nothing ends. -/
theorem planned?_startMarks (d : Dispatcher) (origin : DeliveryOrigin) (own : Nat)
    (callback : Callback) (event : Event StateChange) :
    (d.startMarks origin own callback event).filterMap Mark.planned? =
      ((callback.delivery.wakesAt? d.now event).map (⟨·, own, callback, event⟩)).toList ∧
    (d.startMarks origin own callback event).filterMap Mark.end? = [] := by
  have rest : ∀ id? : Option Nat, (id?.toList.flatMap d.detachMarks).filterMap Mark.planned? = [] ∧
      (id?.toList.flatMap d.detachMarks).filterMap Mark.end? = [] := by
    intro id?
    cases id? with
    | none => exact ⟨rfl, rfl⟩
    | some id => simpa using planned?_detachMarks d id
  obtain ⟨none_, none'⟩ := rest callback.detaches?
  unfold startMarks
  rw [List.filterMap_cons, List.filterMap_cons, none_, none']
  constructor
  · unfold Mark.planned?
    dsimp only
    cases callback.delivery.wakesAt? d.now event <;> rfl
  · rfl

/-- A timer that delivers plans the end of its delivery. -/
theorem planned_deliver (d : Dispatcher) (own timer : Nat) (callback : Callback)
    (event : Event StateChange) :
    (d.deliver own timer callback event).planned = d.planned ++
      ((callback.delivery.wakesAt? d.now event).map (⟨·, own, callback, event⟩)).toList := by
  have same : (d.start own callback event).planned = d.planned :=
    planned_congr (timeline_start _ _ _ _)
  unfold deliver
  cases callback.delivery.wakesAt? d.now event with
  | some due =>
    dsimp only
    rw [planned_arm, same]
    rfl
  | none =>
    dsimp only
    rw [same]
    exact (List.append_nil _).symm

/-- In a turn nothing ends, and what begins plans its end. -/
theorem Turn.planned {r : Running} {a : Attachment} {rest : List Attachment}
    (turn : Turn d r a rest marks t) :
    marks.filterMap Mark.end? = [] ∧
      t.dispatcher.planned = d.planned ++ marks.filterMap Mark.planned? := by
  cases turn with
  | missing => exact ⟨rfl, (List.append_nil _).symm⟩
  | quiet at_ effect =>
    refine ⟨rfl, ?_⟩
    rw [planned_congr (timeline_release _ a)]
    exact (List.append_nil _).symm
  | opens at_ effect =>
    refine ⟨rfl, ?_⟩
    rw [planned_congr (timeline_release _ a), planned_arm]
    rfl
  | @calls h at_ effect atOnce =>
    obtain ⟨plans, ends⟩ := planned?_startMarks (d.met a h r.event) .inline a.serial h.callback r.event
    have atOnce : h.callback.delivery.wakesAt? (d.met a h r.event).now r.event = none := atOnce
    refine ⟨ends, ?_⟩
    rw [plans, atOnce, planned_congr (timeline_release _ a), planned_congr (timeline_start _ _ _ _)]
    exact (List.append_nil _).symm
  | @holdsUp h due at_ effect wakes =>
    obtain ⟨plans, ends⟩ := planned?_startMarks (d.met a h r.event) .inline a.serial h.callback r.event
    have wakes : h.callback.delivery.wakesAt? (d.met a h r.event).now r.event = some due := wakes
    refine ⟨ends, ?_⟩
    rw [plans, wakes, planned_arm, planned_congr (timeline_start _ _ _ _)]
    rfl

/-- An alarm that a delivery waits for ends it. -/
theorem Ring.planned {alarm : HandlerAlarm} (ring : Ring d alarm marks t)
    (goesOn : ∀ {serial timer : Nat} {callback : Callback} {event : Event StateChange},
      alarm = .delivery serial timer callback event → d.runs serial timer = true) :
    (marks.filterMap Mark.end? ++ t.dispatcher.planned).Perm
      ((planned? ⟨d.now, alarm⟩).toList ++ d.planned ++ marks.filterMap Mark.planned?) := by
  cases ring with
  | lapses =>
    show d.planned.Perm (d.planned ++ [])
    rw [List.append_nil]
  | @delivers own timer h event debouncer at_ woken =>
    obtain ⟨plans, ends⟩ := planned?_startMarks d .timer own h.callback event
    have woken := planned_deliver (d.modify own fun h => { h with debouncer }) own timer h.callback
      event
    rw [plans, ends]
    dsimp only
    rw [woken]
    exact .refl _
  | @ends serial timer callback event runs =>
    show (_ :: d.planned).Perm (_ :: (d.planned ++ []))
    rw [List.append_nil]
  | stops stopped =>
    rw [goesOn rfl] at stopped
    cases stopped
  | @resumes callback x =>
    have same : ((d.finish x.current.serial callback x.event).release x.current).planned =
        d.planned := planned_congr (by simp)
    show (_ :: Dispatcher.planned _).Perm (_ :: (d.planned ++ []))
    rw [same, List.append_nil]

/-- What was planned before a step or in it has ended or is planned after it. -/
theorem Step.planned (step : Step s marks t) (sound : Sound s) :
    (marks.filterMap Mark.end? ++ t.dispatcher.planned).Perm
      (s.dispatcher.planned ++ marks.filterMap Mark.planned?) := by
  have nothing : ∀ {d d' : Dispatcher} {marks : List Mark}, d'.timeline.alarms = d.timeline.alarms →
      marks.filterMap Mark.planned? = [] → marks.filterMap Mark.end? = [] →
        (marks.filterMap Mark.end? ++ d'.planned).Perm (d.planned ++ marks.filterMap Mark.planned?) := by
    intro d d' marks same plans ends
    unfold Dispatcher.planned
    rw [plans, ends, same, List.nil_append, List.append_nil]
  cases step with
  | attach rules timeout callback => exact nothing rfl rfl rfl
  | detach id =>
    obtain ⟨plans, ends⟩ := planned?_detachMarks _ id
    exact nothing (congrArg Timeline.alarms (timeline_detach _ _)) plans ends
  | replace id rules timeout callback =>
    obtain ⟨plans, ends⟩ := planned?_detachMarks _ id
    exact nothing (congrArg Timeline.alarms (timeline_replace _ _ _)) plans ends
  | begin owner event idle => exact nothing rfl rfl rfl
  | collect taken =>
    rw [eq_of_takeReport? taken]
    exact nothing rfl rfl rfl
  | wait limit ahead => exact nothing rfl rfl rfl
  | @ring d alarm timeline marks stage next ring =>
    -- An alarm for a delivery finds its timer running, so it does end it.
    have goesOn : ∀ {serial timer : Nat} {callback : Callback} {event : Event StateChange},
        alarm = .delivery serial timer callback event →
          Dispatcher.runs { d with timeline } serial timer = true := by
      intro serial timer callback event isDelivery
      have mem : ⟨timeline.now, alarm⟩ ∈ d.timeline.alarms :=
        (sound.next next).2.mem_iff.2 List.mem_cons_self
      obtain ⟨h, at_, delivering⟩ := sound.delivering _ mem isDelivery
      show (d.handlers[serial]?.all fun h => h.debouncer.runs timer) = true
      rw [at_]
      exact delivering.runs
    have all := (planned_next sound next).append_right (marks.filterMap Mark.planned?)
    exact (ring.planned goesOn).trans all.symm
  | turn first turn =>
    obtain ⟨ends, plans⟩ := turn.planned
    rw [ends, plans]
    exact .refl _
  | closes done => exact nothing rfl rfl rfl

/-- Each delivery that began and takes time has ended, or an alarm is set for its
end. -/
theorem Run.planned (run : Run s marks t) (sound : Sound s) :
    (marks.filterMap Mark.end? ++ t.dispatcher.planned).Perm
      (s.dispatcher.planned ++ marks.filterMap Mark.planned?) := by
  induction run with
  | nil => exact (List.append_nil _).symm ▸ .refl _
  | @snoc t u marks more run step ih =>
    rw [List.filterMap_append, List.filterMap_append, List.append_assoc]
    refine ((step.planned (run.sound sound)).append_left _).trans ?_
    rw [← List.append_assoc, ← List.append_assoc]
    exact ih.append_right _

end Dispatcher

end HubAutomation
