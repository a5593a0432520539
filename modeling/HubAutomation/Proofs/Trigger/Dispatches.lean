import HubAutomation.Trigger.Dispatcher
import Mathlib.Data.List.Nodup
import Mathlib.Algebra.GroupWithZero.Nat
import Mathlib.Algebra.Order.BigOperators.Group.List
import Mathlib.Algebra.Order.Group.Nat

/-!
# Dispatches step by step

What a set of handlers does, in steps so small that nothing comes between two of
them unseen: a dispatch has a turn for each handler, a callback begins, and what
it takes out of the set is out. While a dispatch goes on, nothing else happens;
where a callback holds it up, handlers come and go and alarms go off. At most
one dispatch is under way.

- `Mark`: what is told of a step.
- `Dispatcher.Step`: the steps, and `Dispatcher.Run`: one after another.
- `Dispatcher.proceed_reaches`: a dispatch is a run of turns.
- `Dispatcher.actAll_reaches`: whatever is done with a set, from one request to
  the next, is a run.
-/

namespace HubAutomation

/-- Who begins a delivery. -/
inductive DeliveryOrigin where
  /-- A dispatch, which waits for its end. -/
  | inline
  /-- The end of a window. -/
  | timer
deriving DecidableEq

/-- What is told of a step. -/
inductive Mark where
  /-- A dispatch begins. -/
  | dispatched
  /-- A handler is out of the set. -/
  | detached (serial : Nat)
  | begun (origin : DeliveryOrigin) (serial : Nat) (callback : Callback) (time : Nat)
    (event : Event StateChange)
  /-- A delivery that took time has come to its end. -/
  | ended (serial : Nat) (callback : Callback) (time : Nat) (event : Event StateChange)

namespace Mark

/-- What is seen of it. -/
def seen : Mark → List Sighting
  | .begun _ serial callback time event =>
    (callback.delivery.start time event).map (Sighting.mk serial)
  | .ended serial callback time event =>
    (callback.delivery.finish time event).map (Sighting.mk serial)
  | _ => []

/-- A delivery to a handler begins. -/
def Begins (origin : DeliveryOrigin) (serial : Nat) (mark : Mark) : Prop :=
  ∃ callback time event, mark = .begun origin serial callback time event

end Mark

/-- A call is delivered and holds nothing back, or it opens a window. -/
theorem Debouncer.call_effect {α : Type} (b : Debouncer α) (now : Nat) (payload : α) :
    (b.call now payload).2 = .deliver payload ∧ (b.call now payload).1.isPending = false ∨
      ∃ due timer, (b.call now payload).2 = .window due timer ∧ now ≤ due := by
  unfold call
  split
  · exact .inl ⟨rfl, rfl⟩
  · exact .inr ⟨_, _, rfl, Nat.le_add_right _ _⟩

namespace TriggerHandler

variable {h : TriggerHandler} {now : Nat} {event event' : Event StateChange}

/-- A handler delivers the event that it is shown and holds nothing back, or it
opens a window. -/
theorem meet_effect {effect : CallEffect (Event StateChange)}
    (is : (h.meet now event).effect = some effect) :
    effect = .deliver event ∧ (h.meet now event).handler.isPending = false ∨
      ∃ due timer, effect = .window due timer ∧ now ≤ due := by
  unfold meet at is ⊢
  split at is
  · cases is
  · cases is
  · cases is
  · cases is
    exact h.debouncer.cancel.2.call_effect now event

/-- A handler delivers the very event that it is shown. -/
theorem eq_of_meet_deliver (effect : (h.meet now event).effect = some (.deliver event')) :
    event' = event := by
  rcases meet_effect effect with ⟨e, -⟩ | ⟨due, timer, e, -⟩
  · cases e
    rfl
  · cases e

/-- A handler that delivers at once holds nothing back. -/
theorem not_pending_of_meet_deliver (effect : (h.meet now event).effect = some (.deliver event')) :
    (h.meet now event).handler.isPending = false := by
  rcases meet_effect effect with ⟨-, calm⟩ | ⟨due, timer, e, -⟩
  · exact calm
  · cases e

/-- A window ends in the future. -/
theorem le_of_meet_window {due timer : Nat}
    (effect : (h.meet now event).effect = some (.window due timer)) : now ≤ due := by
  rcases meet_effect effect with ⟨e, -⟩ | ⟨due', timer', e, le⟩
  · cases e
  · cases e
    exact le

end TriggerHandler

/-- The dispatch that an alarm holds up. -/
def HandlerAlarm.dispatch? : HandlerAlarm → Option Dispatch
  | .turn _ x => some x
  | _ => none

namespace Dispatcher

variable {d d' : Dispatcher}

/-! ### What an operation leaves alone -/

/-- Operations on handlers and sets leave the alarms alone. -/
@[simp] theorem timeline_modify (d : Dispatcher) (serial : Nat) (f : TriggerHandler → TriggerHandler) :
    (d.modify serial f).timeline = d.timeline := rfl

@[simp] theorem timeline_cancel (d : Dispatcher) (serial : Nat) :
    (d.cancel serial).timeline = d.timeline := rfl

@[simp] theorem timeline_detach (d : Dispatcher) (id : Nat) :
    (d.detach id).timeline = d.timeline := by
  unfold detach
  split <;> rfl

@[simp] theorem timeline_replace (d : Dispatcher) (id : Nat) (h : TriggerHandler) :
    (d.replace id h).timeline = d.timeline := by
  unfold replace
  split <;> rfl

@[simp] theorem timeline_release (d : Dispatcher) (a : Attachment) :
    (d.release a).timeline = d.timeline := by
  unfold release
  split <;> rfl

@[simp] theorem timeline_start (d : Dispatcher) (serial : Nat) (callback : Callback)
    (event : Event StateChange) : (d.start serial callback event).timeline = d.timeline := by
  unfold start
  dsimp only
  split
  · exact timeline_detach _ _
  · rfl

@[simp] theorem timeline_finish (d : Dispatcher) (serial : Nat) (callback : Callback)
    (event : Event StateChange) : (d.finish serial callback event).timeline = d.timeline := rfl

/-- Operations on handlers and sets leave the reports alone. -/
@[simp] theorem reports_modify (d : Dispatcher) (serial : Nat) (f : TriggerHandler → TriggerHandler) :
    (d.modify serial f).reports = d.reports := rfl

@[simp] theorem reports_detach (d : Dispatcher) (id : Nat) :
    (d.detach id).reports = d.reports := by
  unfold detach
  split <;> rfl

@[simp] theorem reports_replace (d : Dispatcher) (id : Nat) (h : TriggerHandler) :
    (d.replace id h).reports = d.reports := by
  unfold replace
  split <;> rfl

@[simp] theorem reports_release (d : Dispatcher) (a : Attachment) :
    (d.release a).reports = d.reports := by
  unfold release
  split <;> rfl

/-- Who is let go was taken out of the set before. -/
@[simp] theorem set_release (d : Dispatcher) (a : Attachment) : (d.release a).set = d.set := by
  unfold release
  split <;> rfl

@[simp] theorem reports_start (d : Dispatcher) (serial : Nat) (callback : Callback)
    (event : Event StateChange) : (d.start serial callback event).reports = d.reports := by
  unfold start
  dsimp only
  split
  · exact reports_detach _ _
  · rfl

/-! ### Steps -/

/-- What is told when an id is taken out of the set or given to another
handler. -/
def detachMarks (d : Dispatcher) (id : Nat) : List Mark :=
  (d.set.find? id).toList.map fun a => .detached a.serial

/-- What is told when a callback begins. -/
def startMarks (d : Dispatcher) (origin : DeliveryOrigin) (serial : Nat) (callback : Callback)
    (event : Event StateChange) : List Mark :=
  .begun origin serial callback d.now event :: callback.detaches?.toList.flatMap d.detachMarks

/-- A dispatch that goes on at this moment. -/
structure Running where
  owner : DispatchOwner
  event : Event StateChange
  rest : List Attachment
  report : DispatchReport

/-- A dispatcher, in the middle of a dispatch or not. -/
structure Stage where
  dispatcher : Dispatcher
  running : Option Running

/-- A handler has been shown an event. -/
def met (d : Dispatcher) (a : Attachment) (h : TriggerHandler) (event : Event StateChange) :
    Dispatcher := d.modify a.serial fun _ => (h.meet d.now event).handler

/-- A dispatch has had its turn with a handler. -/
def Running.next (r : Running) (a : Attachment) (rest : List Attachment) (failed : Bool) : Running :=
  { r with rest, report := r.report.add a.id failed }

/-- The turn that a dispatch has with the first handler to come. -/
inductive Turn (d : Dispatcher) (r : Running) (a : Attachment) (rest : List Attachment) :
    List Mark → Stage → Prop where
  | missing (missing : d.handlers[a.serial]? = none) : Turn d r a rest [] ⟨d, some { r with rest }⟩
  | quiet {h : TriggerHandler} (at_ : d.handlers[a.serial]? = some h)
      (effect : (h.meet d.now r.event).effect = none) :
      Turn d r a rest []
        ⟨(d.met a h r.event).release a, some (r.next a rest (h.meet d.now r.event).failed)⟩
  /-- A window opens, and closes at once if nobody keeps the handler. -/
  | opens {h : TriggerHandler} {due timer : Nat} (at_ : d.handlers[a.serial]? = some h)
      (effect : (h.meet d.now r.event).effect = some (.window due timer)) :
      Turn d r a rest []
        ⟨((d.met a h r.event).arm due (.window a.serial timer)).release a,
          some (r.next a rest (h.meet d.now r.event).failed)⟩
  | calls {h : TriggerHandler} (at_ : d.handlers[a.serial]? = some h)
      (effect : (h.meet d.now r.event).effect = some (.deliver r.event))
      (atOnce : h.callback.delivery.wakesAt? d.now r.event = none) :
      Turn d r a rest ((d.met a h r.event).startMarks .inline a.serial h.callback r.event)
        ⟨((d.met a h r.event).start a.serial h.callback r.event).release a,
          some (r.next a rest (h.meet d.now r.event).failed)⟩
  /-- A callback holds the dispatch up. -/
  | holdsUp {h : TriggerHandler} {due : Nat} (at_ : d.handlers[a.serial]? = some h)
      (effect : (h.meet d.now r.event).effect = some (.deliver r.event))
      (wakes : h.callback.delivery.wakesAt? d.now r.event = some due) :
      Turn d r a rest ((d.met a h r.event).startMarks .inline a.serial h.callback r.event)
        ⟨((d.met a h r.event).start a.serial h.callback r.event).arm due (.turn h.callback
          ⟨r.owner, r.event, a, rest, r.report.add a.id (h.meet d.now r.event).failed⟩), none⟩

/-- What comes of an alarm that goes off. -/
inductive Ring (d : Dispatcher) : HandlerAlarm → List Mark → Stage → Prop where
  /-- The payload of the window is gone. -/
  | lapses {serial timer : Nat}
      (gone : ∀ h, d.handlers[serial]? = some h → h.debouncer.wake timer = none) :
      Ring d (.window serial timer) [] ⟨d, none⟩
  | delivers {serial timer : Nat} {h : TriggerHandler} {event : Event StateChange}
      {debouncer : Debouncer (Event StateChange)} (at_ : d.handlers[serial]? = some h)
      (woken : h.debouncer.wake timer = some (event, debouncer)) :
      Ring d (.window serial timer) (d.startMarks .timer serial h.callback event)
        ⟨(d.modify serial fun h => { h with debouncer }).deliver serial timer h.callback event, none⟩
  | ends {serial timer : Nat} {callback : Callback} {event : Event StateChange}
      (runs : d.runs serial timer = true) :
      Ring d (.delivery serial timer callback event) [.ended serial callback d.now event]
        ⟨d.finish serial callback event, none⟩
  /-- The timer was told to stop. -/
  | stops {serial timer : Nat} {callback : Callback} {event : Event StateChange}
      (stopped : d.runs serial timer = false) :
      Ring d (.delivery serial timer callback event) [] ⟨d, none⟩
  /-- A dispatch that was held up goes on. -/
  | resumes {callback : Callback} {x : Dispatch} :
      Ring d (.turn callback x) [.ended x.current.serial callback d.now x.event]
        ⟨(d.finish x.current.serial callback x.event).release x.current,
          some ⟨x.owner, x.event, x.rest, x.report⟩⟩

/-- The dispatches that callbacks hold up. -/
def underWay (d : Dispatcher) : List Dispatch :=
  d.timeline.alarms.filterMap fun a => a.wakes.dispatch?

/-- The steps. -/
inductive Step : Stage → List Mark → Stage → Prop where
  | attach {d : Dispatcher} (rules : RuleSet) (timeout : Nat) (callback : Callback) :
      Step ⟨d, none⟩ [] ⟨d.attach (.ofRules rules timeout callback), none⟩
  | detach {d : Dispatcher} (id : Nat) : Step ⟨d, none⟩ (d.detachMarks id) ⟨d.detach id, none⟩
  | replace {d : Dispatcher} (id : Nat) (rules : RuleSet) (timeout : Nat) (callback : Callback) :
      Step ⟨d, none⟩ (d.detachMarks id) ⟨d.replace id (.ofRules rules timeout callback), none⟩
  /-- A dispatch begins if none is under way. -/
  | begin {d : Dispatcher} (owner : DispatchOwner) (event : Event StateChange)
      (idle : d.underWay = []) :
      Step ⟨d, none⟩ [.dispatched] ⟨d, some ⟨owner, event, d.set.attachments, .empty⟩⟩
  /-- The report of a dispatch is taken. -/
  | collect {d d' : Dispatcher} {owner : DispatchOwner} {report : DispatchReport}
      (taken : d.takeReport? owner = some (report, d')) : Step ⟨d, none⟩ [] ⟨d', none⟩
  /-- Time passes, but no alarm is missed. -/
  | wait {d : Dispatcher} (limit : Nat) (ahead : ∀ a ∈ d.timeline.alarms, limit ≤ a.due) :
      Step ⟨d, none⟩ [] ⟨{ d with timeline := d.timeline.moveTo limit }, none⟩
  | ring {d : Dispatcher} {alarm : HandlerAlarm} {timeline : Timeline HandlerAlarm}
      {marks : List Mark} {stage : Stage}
      (next : d.timeline.takeNext? = some (alarm, timeline))
      (ring : Ring { d with timeline } alarm marks stage) : Step ⟨d, none⟩ marks stage
  | turn {d : Dispatcher} {r : Running} {a : Attachment} {rest : List Attachment}
      {marks : List Mark} {stage : Stage} (first : r.rest = a :: rest)
      (turn : Turn d r a rest marks stage) : Step ⟨d, some r⟩ marks stage
  /-- A dispatch has come to its end. -/
  | closes {d : Dispatcher} {r : Running} (done : r.rest = []) :
      Step ⟨d, some r⟩ [] ⟨{ d with reports := d.reports ++ [(r.owner, r.report)] }, none⟩

/-- One step after another, and all that is told of them. -/
inductive Run (s : Stage) : List Mark → Stage → Prop where
  | nil : Run s [] s
  | snoc {t u : Stage} {marks more : List Mark} (run : Run s marks t) (step : Step t more u) :
      Run s (marks ++ more) u

/-- One run can follow another. -/
theorem Run.trans {s t u : Stage} {marks more : List Mark} (first : Run s marks t)
    (second : Run t more u) : Run s (marks ++ more) u := by
  induction second with
  | nil => rwa [List.append_nil]
  | snoc _ step ih =>
    rw [← List.append_assoc]
    exact ih.snoc step

/-- Some run leads from one stage to another. -/
def Reaches (s t : Stage) : Prop := ∃ marks, Run s marks t

theorem Reaches.refl (s : Stage) : Reaches s s := ⟨[], .nil⟩

/-- So can stages that are reached. -/
theorem Reaches.trans {s t u : Stage} (first : Reaches s t) (second : Reaches t u) : Reaches s u := by
  obtain ⟨marks, run⟩ := first
  obtain ⟨more, rest⟩ := second
  exact ⟨_, run.trans rest⟩

/-- A stage is reached by one step. -/
theorem Step.reaches {s t : Stage} {marks : List Mark} (step : Step s marks t) : Reaches s t :=
  ⟨_, Run.nil.snoc step⟩

/-! ### Dispatches and alarms as runs -/

/-- What turns keep, and the end of a dispatch, a dispatch that goes on keeps. -/
theorem proceed_induction {P : Stage → Prop}
    (turn : ∀ {d : Dispatcher} {r : Running} {a : Attachment} {rest : List Attachment}
      {marks : List Mark} {s : Stage}, r.rest = a :: rest → Turn d r a rest marks s →
        P ⟨d, some r⟩ → P s)
    (closes : ∀ {d : Dispatcher} {r : Running}, r.rest = [] → P ⟨d, some r⟩ →
      P ⟨{ d with reports := d.reports ++ [(r.owner, r.report)] }, none⟩)
    {owner : DispatchOwner} {event : Event StateChange} {as : List Attachment}
    {report : DispatchReport} {d : Dispatcher} (h : P ⟨d, some ⟨owner, event, as, report⟩⟩) :
    P ⟨proceed owner event as report d, none⟩ := by
  induction as generalizing report d with
  | nil => exact closes rfl h
  | cons a rest ih =>
    unfold proceed
    split
    · rename_i missing
      exact ih (turn rfl (.missing missing) h)
    · rename_i handler at_
      dsimp only
      split
      · rename_i effect
        have step := @Turn.quiet d ⟨owner, event, a :: rest, report⟩ a rest _ at_ effect
        exact ih (turn rfl step h)
      · rename_i due timer effect
        have step := @Turn.opens d ⟨owner, event, a :: rest, report⟩ a rest _ _ _ at_ effect
        exact ih (turn rfl step h)
      · rename_i event' effect
        obtain rfl : event' = event := TriggerHandler.eq_of_meet_deliver effect
        split
        · rename_i due wakes
          have step := @Turn.holdsUp d ⟨owner, event', a :: rest, report⟩ a rest _ _ at_ effect wakes
          exact turn rfl step h
        · rename_i atOnce
          have step := @Turn.calls d ⟨owner, event', a :: rest, report⟩ a rest _ at_ effect atOnce
          exact ih (turn rfl step h)

/-- A dispatch that goes on is a run of turns. -/
theorem proceed_reaches (owner : DispatchOwner) (event : Event StateChange)
    (as : List Attachment) (report : DispatchReport) (d : Dispatcher) :
    Reaches ⟨d, some ⟨owner, event, as, report⟩⟩ ⟨proceed owner event as report d, none⟩ :=
  proceed_induction (fun first turn reaches => reaches.trans (Step.turn first turn).reaches)
    (fun done reaches => reaches.trans (Step.closes done).reaches) (.refl _)

/-- An alarm that holds up no dispatch is over when it has gone off. -/
theorem fire_ring (alarm : HandlerAlarm) (none_ : alarm.dispatch? = none) (d : Dispatcher) :
    ∃ marks, Ring d alarm marks ⟨d.fire alarm, none⟩ := by
  cases alarm with
  | window serial timer =>
    unfold fire
    dsimp only
    split
    · rename_i missing
      refine ⟨_, .lapses fun h at_ => ?_⟩
      rw [missing] at at_
      cases at_
    · rename_i h at_
      split
      · rename_i event debouncer woken
        exact ⟨_, .delivers at_ woken⟩
      · rename_i gone
        refine ⟨_, .lapses fun h' at' => ?_⟩
        obtain rfl : h = h' := Option.some.inj (at_.symm.trans at')
        exact gone
  | delivery serial timer callback event =>
    unfold fire
    dsimp only
    split
    · rename_i runs
      exact ⟨_, .ends runs⟩
    · rename_i stopped
      exact ⟨_, .stops (Bool.eq_false_iff.2 stopped)⟩
  | turn callback x => cases none_

/-- An alarm that goes off is a run. -/
theorem fire_reaches {alarm : HandlerAlarm} {timeline : Timeline HandlerAlarm}
    (next : d.timeline.takeNext? = some (alarm, timeline)) :
    Reaches ⟨d, none⟩ ⟨{ d with timeline }.fire alarm, none⟩ := by
  cases alarm with
  | window serial timer =>
    obtain ⟨marks, ring⟩ := fire_ring (.window serial timer) rfl { d with timeline }
    exact (Step.ring next ring).reaches
  | delivery serial timer callback event =>
    obtain ⟨marks, ring⟩ :=
      fire_ring (.delivery serial timer callback event) rfl { d with timeline }
    exact (Step.ring next ring).reaches
  | turn callback x => exact (Step.ring next .resumes).reaches.trans (proceed_reaches _ _ _ _ _)

/-- A dispatch that begins goes through the steps of a run, up to where it is held up
or ends. -/
theorem begin_reaches (owner : DispatchOwner) (event : Event StateChange) (idle : d.underWay = []) :
    Reaches ⟨d, none⟩ ⟨d.begin owner event, none⟩ :=
  (Step.begin owner event idle).reaches.trans (proceed_reaches _ _ _ _ _)

end Dispatcher

/-- An alarm that is due by some time is the next one. -/
theorem Timeline.takeNext?_of_take? {κ : Type} {t t' : Timeline κ} {limit : Nat} {wakes : κ}
    (h : t.take? limit = some (wakes, t')) : t.takeNext? = some (wakes, t') := by
  unfold take? at h
  unfold takeNext?
  split at h
  · split at h
    · exact h
    · cases h
  · cases h

/-- No other alarm is due before the next one. -/
theorem Timeline.takeNext?_eq_some {κ : Type} {t t' : Timeline κ} {wakes : κ}
    (h : t.takeNext? = some (wakes, t')) :
    ∃ due, t.alarms.Perm (⟨due, wakes⟩ :: t'.alarms) ∧ (∀ b ∈ t'.alarms, due ≤ b.due) ∧
      t'.now = max t.now due := by
  unfold takeNext? at h
  split at h
  · rename_i a others some_
    cases h
    have perm := perm_of_earliest? some_
    have least := due_le_of_earliest? some_
    exact ⟨a.due, perm, fun b hb => least b (perm.mem_iff.2 (List.mem_cons_of_mem _ hb)), rfl⟩
  · cases h

/-- If an alarm is set, there is a next one. -/
theorem Timeline.takeNext?_isSome {κ : Type} {t : Timeline κ} (some_ : t.alarms ≠ []) :
    ∃ wakes t', t.takeNext? = some (wakes, t') := by
  unfold takeNext?
  split
  · exact ⟨_, _, rfl⟩
  · rename_i none_
    exact absurd (earliest?_eq_none none_) some_

namespace Dispatcher

variable {d d' : Dispatcher}

/-- Alarms that ring one after another are steps of a run. -/
theorem fireUpTo_reaches (limit fuel : Nat) (d : Dispatcher) :
    Reaches ⟨d, none⟩ ⟨fireUpTo limit fuel d, none⟩ := by
  induction fuel generalizing d with
  | zero => exact .refl _
  | succ fuel ih =>
    unfold fireUpTo
    split
    · rename_i alarm timeline taken
      exact (fire_reaches (Timeline.takeNext?_of_take? taken)).trans (ih _)
    · exact .refl _

/-! ### Enough fuel -/

/-- The work is that of all alarms together. -/
theorem work_eq (d : Dispatcher) : d.work = (d.timeline.alarms.map fun a => a.wakes.work).sum := by
  unfold work
  induction d.timeline.alarms with
  | nil => rfl
  | cons a rest ih => rw [List.foldr_cons, List.map_cons, List.sum_cons, ih]

/-- Work depends on the alarms alone. -/
theorem work_congr (same : d.timeline = d'.timeline) : d.work = d'.work := by
  unfold work
  rw [same]

/-- An alarm that is set adds its work. -/
theorem work_arm (d : Dispatcher) (due : Nat) (alarm : HandlerAlarm) :
    (d.arm due alarm).work = d.work + alarm.work := by
  rw [work_eq, work_eq]
  show ((d.timeline.alarms ++ [_]).map _).sum = _
  rw [List.map_append, List.sum_append]
  rfl

/-- Every alarm means some work. -/
theorem HandlerAlarm.work_pos (alarm : HandlerAlarm) : 0 < alarm.work := by
  cases alarm <;> exact Nat.succ_pos _

/-- Where there is no work, no alarm is set. -/
theorem alarms_of_work (h : d.work = 0) : d.timeline.alarms = [] := by
  rw [work_eq] at h
  cases alarms : d.timeline.alarms with
  | nil => rfl
  | cons a rest =>
    have positive := HandlerAlarm.work_pos a.wakes
    rw [alarms, List.map_cons, List.sum_cons] at h
    omega

/-- The work is that of the next alarm and that of the others. -/
theorem work_next {alarm : HandlerAlarm} {timeline : Timeline HandlerAlarm}
    (next : d.timeline.takeNext? = some (alarm, timeline)) :
    d.work = alarm.work + { d with timeline }.work := by
  obtain ⟨due, perm, -, -⟩ := Timeline.takeNext?_eq_some next
  rw [work_eq, work_eq, (perm.map _).sum_eq, List.map_cons, List.sum_cons]

/-- The alarms that can still go off, with those that the rest of a dispatch can
arm. -/
def Stage.work (s : Stage) : Nat :=
  s.dispatcher.work + (s.running.map fun r => 2 * r.rest.length).getD 0

/-- A turn arms at most two alarms, and a turn that holds up its dispatch keeps
what the rest of it can arm. -/
theorem Turn.work_le {r : Running} {a : Attachment} {rest : List Attachment} {marks : List Mark}
    {s : Stage} (turn : Turn d r a rest marks s) (first : r.rest = a :: rest) :
    s.work ≤ Stage.work ⟨d, some r⟩ := by
  have before : Stage.work ⟨d, some r⟩ = d.work + 2 * (rest.length + 1) := by
    show d.work + 2 * r.rest.length = _
    rw [first, List.length_cons]
  rw [before]
  -- A handler that the dispatch has come to frees two, which pay for its window, or for
  -- the alarm that holds the dispatch up.
  cases turn with
  | missing missing =>
    show d.work + 2 * rest.length ≤ _
    omega
  | @quiet h at_ effect =>
    have same : ((d.met a h r.event).release a).work = d.work := work_congr (by simp [met])
    show ((d.met a h r.event).release a).work + 2 * rest.length ≤ _
    omega
  | @opens h due timer at_ effect =>
    have armed := work_arm (d.met a h r.event) due (.window a.serial timer)
    have same : (d.met a h r.event).work = d.work := rfl
    have two : HandlerAlarm.work (.window a.serial timer) = 2 := rfl
    show (((d.met a h r.event).arm due (.window a.serial timer)).release a).work +
      2 * rest.length ≤ _
    rw [work_congr (timeline_release _ a)]
    omega
  | @calls h at_ effect atOnce =>
    have same : (((d.met a h r.event).start a.serial h.callback r.event).release a).work = d.work :=
      work_congr (by simp [met])
    show (((d.met a h r.event).start a.serial h.callback r.event).release a).work +
      2 * rest.length ≤ _
    omega
  | @holdsUp h due at_ effect wakes =>
    have same : ((d.met a h r.event).start a.serial h.callback r.event).work = d.work :=
      work_congr (by simp [met])
    show (Dispatcher.arm _ due _).work + 0 ≤ _
    rw [work_arm, same]
    show d.work + (2 * rest.length + 1) + 0 ≤ _
    omega

/-- A dispatch arms at most two alarms for each handler to come. -/
theorem work_proceed (owner : DispatchOwner) (event : Event StateChange) (as : List Attachment)
    (report : DispatchReport) (d : Dispatcher) :
    (proceed owner event as report d).work ≤ d.work + 2 * as.length :=
  proceed_induction (P := fun s => s.work ≤ d.work + 2 * as.length)
    (fun first turn le => (turn.work_le first).trans le) (fun done le => by
      refine .trans ?_ le
      unfold Stage.work
      simp [done]
      exact Nat.le_of_eq (work_congr rfl)) (Nat.le_refl _)

/-- A delivery adds no more work than its own alarm. -/
theorem work_deliver (d : Dispatcher) (serial timer : Nat) (callback : Callback)
    (event : Event StateChange) : (d.deliver serial timer callback event).work ≤ d.work + 1 := by
  have same : (d.start serial callback event).work = d.work := work_congr (by simp)
  unfold deliver
  dsimp only
  split
  · rw [work_arm, same]
    exact Nat.le_refl _
  · rw [same]
    exact Nat.le_succ _

/-- Fewer alarms come of an alarm than it counts for. -/
theorem work_fire {alarm : HandlerAlarm} {timeline : Timeline HandlerAlarm}
    (next : d.timeline.takeNext? = some (alarm, timeline)) :
    ({ d with timeline }.fire alarm).work < d.work := by
  rw [work_next next]
  cases alarm with
  | window serial timer =>
    show _ < 2 + _
    unfold fire
    dsimp only
    split
    · omega
    · rename_i h at_
      split
      · rename_i event debouncer woken
        have most := work_deliver ({ d with timeline }.modify serial fun h => { h with debouncer })
          serial timer h.callback event
        have same : ({ d with timeline }.modify serial fun h => { h with debouncer }).work =
            { d with timeline }.work := work_congr rfl
        omega
      · omega
  | delivery serial timer callback event =>
    show _ < 1 + _
    unfold fire
    dsimp only
    split
    · have same : ({ d with timeline }.finish serial callback event).work =
          { d with timeline }.work := work_congr rfl
      omega
    · omega
  -- A dispatch that goes on may be held up again, but with fewer handlers to come.
  | turn callback x =>
    show _ < (2 * x.rest.length + 1) + _
    have most := work_proceed x.owner x.event x.rest x.report
      (({ d with timeline }.finish x.current.serial callback x.event).release x.current)
    have same : (({ d with timeline }.finish x.current.serial callback x.event).release
        x.current).work = { d with timeline }.work := work_congr (by simp)
    rw [same] at most
    unfold fire
    dsimp only
    omega

/-- With enough fuel, no alarm is left that is due. -/
theorem ahead_fireUpTo {limit fuel : Nat} (enough : d.work ≤ fuel) :
    ∀ a ∈ (fireUpTo limit fuel d).timeline.alarms, limit < a.due := by
  induction fuel generalizing d with
  | zero =>
    have none_ := alarms_of_work (Nat.le_zero.1 enough)
    show ∀ a ∈ d.timeline.alarms, _
    rw [none_]
    exact fun _ h => absurd h List.not_mem_nil
  | succ fuel ih =>
    unfold fireUpTo
    split
    · rename_i alarm timeline taken
      have less := work_fire (Timeline.takeNext?_of_take? taken)
      exact ih (by omega)
    · rename_i none_
      exact Timeline.take?_eq_none none_

/-- To let time pass is a run. -/
theorem advance_reaches (d : Dispatcher) (milliseconds : Nat) :
    Reaches ⟨d, none⟩ ⟨d.advance milliseconds, none⟩ := by
  have fires := fireUpTo_reaches (d.timeline.target milliseconds) d.work d
  refine fires.trans (Step.wait _ fun a ha => ?_).reaches
  exact (ahead_fireUpTo (Nat.le_refl _) a ha).le

/-! ### Dispatches to their end -/

/-- No dispatch is under way, and none is waited for. -/
structure Idle (d : Dispatcher) : Prop where
  nothing : d.underWay = []
  taken : ∀ r ∈ d.reports, r.1 ≠ .request

/-- The dispatch that was asked for is under way, or its report is there. -/
inductive Asked (d : Dispatcher) : Prop where
  | underWay {x : Dispatch} (one : d.underWay = [x]) (owner : x.owner = .request)
      (noReport : ∀ r ∈ d.reports, r.1 ≠ .request)
  | done (nothing : d.underWay = []) {report : DispatchReport}
      (isThere : (.request, report) ∈ d.reports)

/-- Which dispatches are held up can be told from the alarms. -/
theorem underWay_congr (same : d.timeline = d'.timeline) : d.underWay = d'.underWay := by
  unfold underWay
  rw [same]

/-- An alarm for a dispatch holds it up. -/
theorem underWay_arm (d : Dispatcher) (due : Nat) (alarm : HandlerAlarm) :
    (d.arm due alarm).underWay = d.underWay ++ alarm.dispatch?.toList := by
  show (d.timeline.alarms ++ [_]).filterMap _ = _
  rw [List.filterMap_append]
  cases h : alarm.dispatch? <;> simp [underWay, h]

/-- The next alarm may be that of a dispatch that is held up. -/
theorem underWay_next {alarm : HandlerAlarm} {timeline : Timeline HandlerAlarm}
    (next : d.timeline.takeNext? = some (alarm, timeline)) :
    d.underWay.Perm (alarm.dispatch?.toList ++ { d with timeline }.underWay) := by
  obtain ⟨due, perm, -, -⟩ := Timeline.takeNext?_eq_some next
  refine (perm.filterMap _).trans ?_
  rw [List.filterMap_cons]
  cases alarm.dispatch? with
  | none => exact .refl _
  | some x => exact .refl _

/-- A timer that delivers holds up no dispatch. -/
theorem underWay_deliver (d : Dispatcher) (serial timer : Nat) (callback : Callback)
    (event : Event StateChange) : (d.deliver serial timer callback event).underWay = d.underWay := by
  have same : (d.start serial callback event).underWay = d.underWay := underWay_congr (by simp)
  unfold deliver
  dsimp only
  split
  · rw [underWay_arm, same]
    exact List.append_nil _
  · exact same

/-- A timer that delivers makes no report. -/
theorem reports_deliver (d : Dispatcher) (serial timer : Nat) (callback : Callback)
    (event : Event StateChange) : (d.deliver serial timer callback event).reports = d.reports := by
  unfold deliver
  dsimp only
  split
  · exact reports_start _ _ _ _
  · exact reports_start _ _ _ _

/-- An alarm that holds up no dispatch leaves the dispatches and the reports. -/
theorem fire_leaves {alarm : HandlerAlarm} (none_ : alarm.dispatch? = none) (d : Dispatcher) :
    (d.fire alarm).underWay = d.underWay ∧ (d.fire alarm).reports = d.reports := by
  cases alarm with
  | window serial timer =>
    unfold fire
    dsimp only
    split
    · exact ⟨rfl, rfl⟩
    · split
      · exact ⟨underWay_deliver _ _ _ _ _, reports_deliver _ _ _ _ _⟩
      · exact ⟨rfl, rfl⟩
  | delivery serial timer callback event =>
    unfold fire
    dsimp only
    split
    · exact ⟨rfl, rfl⟩
    · exact ⟨rfl, rfl⟩
  | turn callback x => cases none_

/-- While a dispatch that was asked for goes on, no other one is under way. -/
def Stage.Asked (s : Stage) : Prop :=
  match s.running with
  | some r => r.owner = .request ∧ s.dispatcher.Idle
  | none => s.dispatcher.Asked

/-- Whether a dispatcher is idle depends on its alarms and reports. -/
theorem Idle.congr (idle : d.Idle) (same : d'.underWay = d.underWay)
    (reports : d'.reports = d.reports) : d'.Idle :=
  ⟨same.trans idle.nothing, by rw [reports]; exact idle.taken⟩

/-- A turn keeps the dispatch that was asked for under way. -/
theorem Turn.asked {r : Running} {a : Attachment} {rest : List Attachment} {marks : List Mark}
    {s : Stage} (turn : Turn d r a rest marks s) (asked : Stage.Asked ⟨d, some r⟩) : s.Asked := by
  obtain ⟨owner, idle⟩ := asked
  cases turn with
  | missing missing => exact ⟨owner, idle⟩
  | quiet at_ effect => exact ⟨owner, idle.congr (underWay_congr (by simp [met])) (by simp [met])⟩
  | opens at_ effect =>
    refine ⟨owner, idle.congr ?_ ?_⟩
    · rw [underWay_congr (timeline_release _ a), underWay_arm]
      exact List.append_nil _
    · rw [reports_release]
      rfl
  | calls at_ effect atOnce =>
    exact ⟨owner, idle.congr (underWay_congr (by simp [met])) (by simp [met])⟩
  | @holdsUp h due at_ effect wakes =>
    have same : ((d.met a h r.event).start a.serial h.callback r.event).underWay = d.underWay :=
      underWay_congr (by simp [met])
    have reports : ((d.met a h r.event).start a.serial h.callback r.event).reports = d.reports :=
      reports_start _ _ _ _
    refine Dispatcher.Asked.underWay (x :=
      ⟨r.owner, r.event, a, rest, r.report.add a.id (h.meet d.now r.event).failed⟩) ?_ owner ?_
    · rw [underWay_arm, same, idle.nothing]
      rfl
    · show ∀ x ∈ ((d.met a h r.event).start a.serial h.callback r.event).reports, _
      rw [reports]
      exact idle.taken

/-- A dispatch that goes on ends with a report or is held up. -/
theorem Idle.asked_proceed (idle : d.Idle) (event : Event StateChange) (as : List Attachment)
    (report : DispatchReport) : (proceed .request event as report d).Asked :=
  proceed_induction (P := Stage.Asked) (fun _ turn asked => turn.asked asked)
    (fun _ asked => by
      obtain ⟨owner, idle⟩ := asked
      rw [owner]
      exact .done idle.nothing (List.mem_append_right _ List.mem_cons_self)) ⟨rfl, idle⟩

/-- An alarm keeps the dispatch that was asked for under way, or brings its report. -/
theorem Asked.fire {alarm : HandlerAlarm} {timeline : Timeline HandlerAlarm} (asked : d.Asked)
    (next : d.timeline.takeNext? = some (alarm, timeline)) :
    ({ d with timeline }.fire alarm).Asked := by
  have perm := underWay_next next
  cases isTurn : alarm.dispatch? with
  | none =>
    obtain ⟨same, reports⟩ := fire_leaves isTurn { d with timeline }
    rw [isTurn] at perm
    cases asked with
    | underWay one owner noReport =>
      refine .underWay (same.trans ?_) owner (by rw [reports]; exact noReport)
      rw [one] at perm
      exact List.perm_singleton.1 perm.symm
    | done nothing isThere =>
      refine .done (same.trans ?_) (by rw [reports]; exact isThere)
      rw [nothing] at perm
      exact perm.symm.eq_nil
  | some x =>
    cases alarm with
    | window serial timer => cases isTurn
    | delivery serial timer callback event => cases isTurn
    | turn callback y =>
      cases isTurn
      cases asked with
      | done nothing isThere =>
        rw [nothing] at perm
        cases perm.symm.eq_nil
      | underWay one owner noReport =>
        rw [one] at perm
        obtain ⟨rfl, others⟩ := List.cons.inj (List.perm_singleton.1 perm.symm)
        unfold Dispatcher.fire
        dsimp only
        rw [owner]
        refine Idle.asked_proceed ⟨?_, ?_⟩ _ _ _
        · rw [underWay_congr (timeline_release _ _)]
          exact others
        · rw [reports_release]
          exact noReport

/-- There is no report for somebody if none of the reports is theirs. -/
theorem takeReport?_eq_none {owner : DispatchOwner} :
    d.takeReport? owner = none ↔ ∀ r ∈ d.reports, r.1 ≠ owner := by
  unfold takeReport?
  rw [Option.map_eq_none_iff, List.find?_eq_none]
  simp

/-- Once the report is collected, the dispatcher is idle again. -/
theorem Asked.idle_of_takeReport? {report : DispatchReport} (asked : d.Asked)
    (taken : d.takeReport? .request = some (report, d')) : d'.Idle := by
  have isThere : d.takeReport? .request ≠ none := by
    rw [taken]
    exact Option.some_ne_none _
  unfold takeReport? at taken
  obtain ⟨r, -, e⟩ := Option.map_eq_some_iff.1 taken
  cases e
  refine ⟨?_, fun r mem => ?_⟩
  · cases asked with
    | underWay one owner noReport => exact absurd (takeReport?_eq_none.2 noReport) isThere
    | done nothing isThere => exact nothing
  · simpa using (List.mem_filter.1 mem).2

/-- While the report is not there, an alarm is set that brings it closer. -/
theorem Asked.next (asked : d.Asked) (none_ : d.takeReport? .request = none) :
    ∃ alarm timeline, d.timeline.takeNext? = some (alarm, timeline) := by
  cases asked with
  | underWay one owner noReport =>
    refine Timeline.takeNext?_isSome fun noAlarm => ?_
    unfold Dispatcher.underWay at one
    rw [noAlarm] at one
    cases one
  | done nothing isThere => exact absurd rfl (takeReport?_eq_none.1 none_ _ isThere)

/-- Alarms go off until the report of the dispatch is there. -/
theorem fireUntilReport_reaches {fuel : Nat} (asked : d.Asked) (enough : d.work ≤ fuel) :
    Reaches ⟨d, none⟩ ⟨(fireUntilReport fuel d).1, none⟩ ∧ (fireUntilReport fuel d).1.Idle := by
  induction fuel generalizing d with
  | zero =>
    have noAlarm := alarms_of_work (Nat.le_zero.1 enough)
    unfold fireUntilReport
    split
    · rename_i report d' taken
      exact ⟨(Step.collect taken).reaches, asked.idle_of_takeReport? taken⟩
    · rename_i none_ _
      obtain ⟨alarm, timeline, next⟩ := asked.next none_
      obtain ⟨due, perm, -, -⟩ := Timeline.takeNext?_eq_some next
      rw [noAlarm] at perm
      cases perm.symm.eq_nil
    · rename_i zero
      cases zero
  | succ fuel ih =>
    unfold fireUntilReport
    split
    · rename_i report d' taken
      exact ⟨(Step.collect taken).reaches, asked.idle_of_takeReport? taken⟩
    · rename_i zero
      cases zero
    · rename_i fuel' none_ succ
      cases succ
      split
      · rename_i alarm timeline next
        have less := work_fire next
        obtain ⟨reaches, idle⟩ := ih (asked.fire next) (by omega)
        exact ⟨(fire_reaches next).trans reaches, idle⟩
      · rename_i noNext
        obtain ⟨alarm, timeline, next⟩ := asked.next none_
        rw [next] at noNext
        cases noNext

/-- An alarm leaves an idle dispatcher idle. -/
theorem Idle.fire {alarm : HandlerAlarm} {timeline : Timeline HandlerAlarm} (idle : d.Idle)
    (next : d.timeline.takeNext? = some (alarm, timeline)) :
    ({ d with timeline }.fire alarm).Idle := by
  have perm := underWay_next next
  rw [idle.nothing] at perm
  obtain ⟨notTurn, nothing⟩ := List.append_eq_nil_iff.1 perm.symm.eq_nil
  obtain ⟨same, reports⟩ := fire_leaves (Option.toList_eq_nil_iff.1 notTurn) { d with timeline }
  exact ⟨same.trans nothing, by rw [reports]; exact idle.taken⟩

/-- So do all alarms up to a limit. -/
theorem Idle.fireUpTo (idle : d.Idle) (limit fuel : Nat) : (fireUpTo limit fuel d).Idle := by
  induction fuel generalizing d with
  | zero => exact idle
  | succ fuel ih =>
    unfold Dispatcher.fireUpTo
    split
    · rename_i alarm timeline taken
      exact ih (idle.fire (Timeline.takeNext?_of_take? taken))
    · exact idle

/-- To see a dispatch through is a run, and nothing is left of it. -/
theorem dispatch_reaches (idle : d.Idle) (event : Event StateChange) :
    Reaches ⟨d, none⟩ ⟨(d.dispatch event).1, none⟩ ∧ (d.dispatch event).1.Idle := by
  have asked : (d.begin .request event).Asked := idle.asked_proceed event _ _
  obtain ⟨ends, rests⟩ := fireUntilReport_reaches asked (Nat.le_refl _)
  have begins := begin_reaches .request event idle.nothing
  exact ⟨(begins.trans ends).trans (fireUpTo_reaches _ _ _), rests.fireUpTo _ _⟩

/-! ### Requests -/

/-- What a set of handlers can be asked for. -/
inductive Request where
  | attach (rules : RuleSet) (timeout : Nat) (callback : Callback)
  | detach (id : Nat)
  | replace (id : Nat) (rules : RuleSet) (timeout : Nat) (callback : Callback)
  | dispatch (event : Event StateChange)
  | advance (milliseconds : Nat)

def act (d : Dispatcher) : Request → Dispatcher
  | .attach rules timeout callback => d.attach (.ofRules rules timeout callback)
  | .detach id => d.detach id
  | .replace id rules timeout callback => d.replace id (.ofRules rules timeout callback)
  | .dispatch event => (d.dispatch event).1
  | .advance milliseconds => d.advance milliseconds

def actAll (d : Dispatcher) (requests : List Request) : Dispatcher := requests.foldl act d

/-- Between two requests, each request is a run that ends with an idle dispatcher. -/
theorem act_reaches (idle : d.Idle) (request : Request) :
    Reaches ⟨d, none⟩ ⟨d.act request, none⟩ ∧ (d.act request).Idle := by
  cases request with
  | attach rules timeout callback =>
    exact ⟨(Step.attach rules timeout callback).reaches, idle.congr rfl rfl⟩
  | detach id =>
    exact ⟨(Step.detach id).reaches,
      idle.congr (underWay_congr (timeline_detach _ _)) (reports_detach _ _)⟩
  | replace id rules timeout callback =>
    exact ⟨(Step.replace id rules timeout callback).reaches,
      idle.congr (underWay_congr (timeline_replace _ _ _)) (reports_replace _ _ _)⟩
  | dispatch event => exact dispatch_reaches idle event
  | advance milliseconds =>
    exact ⟨advance_reaches d milliseconds, (idle.fireUpTo _ _).congr rfl rfl⟩

/-- Whatever is asked of a set of handlers, one request after the other, is a
run. -/
theorem actAll_reaches (now : Nat) (requests : List Request) :
    Reaches ⟨new now, none⟩ ⟨(new now).actAll requests, none⟩ := by
  have both : ∀ (requests : List Request) {d : Dispatcher}, d.Idle →
      Reaches ⟨d, none⟩ ⟨d.actAll requests, none⟩ := by
    intro requests
    induction requests with
    | nil => exact fun _ => .refl _
    | cons request rest ih =>
      intro d idle
      obtain ⟨reaches, rests⟩ := act_reaches idle request
      exact reaches.trans (ih rests)
  exact both requests ⟨rfl, fun _ h => absurd h List.not_mem_nil⟩

end Dispatcher

end HubAutomation
