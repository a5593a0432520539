import HubAutomation.Runner

/-!
# Callbacks that fail

A callback that returns an error or panics is noted in the log, and nothing else
comes of it. In the place of each callback one can put one that does the same and
does not fail: dispatches, alarms and runs then go the same way, and the log is
the same but for these notes.

- `Callback.unfailing`: a callback without its failure.
- `Dispatcher.unfailing`, `Runner.unfailing`: the same for all callbacks.
- `Dispatcher.fire_unfailing`, `Runner.step?_unfailing`: what goes the same way.
-/

namespace HubAutomation

/-! ### Callbacks -/

/-- Whether something seen is the note of a failure. -/
def Happening.isFailure {α : Type} : Happening α → Bool
  | .noted (.callbackFailed _) | .noted (.callbackPanicked _) => true
  | _ => false

/-- A script without its failure. One that panics does not come to its sleep. -/
def Script.unfailing (s : Script) : Script where
  label := s.label
  detaches := s.detaches
  panics := none
  sleeps := if s.panics.isSome then none else s.sleeps
  ending := .success

/-- A callback without its failure. -/
def Callback.unfailing : Callback → Callback
  | .script s => .script s.unfailing
  | .logState => .logState

namespace Script

variable {α : Type} (s : Script)

/-- What a script notes at its very end is nothing but a failure. -/
theorem filter_last : (s.last : List (Happening α)).filter (fun x => !x.isFailure) = [] := by
  unfold last
  cases s.ending <;> rfl

/-- A script wakes the same way, and its end is not noted as a failure. -/
theorem finish_unfailing (now : Nat) (payload : α) :
    s.unfailing.finish now payload = (s.finish now payload).filter fun x => !x.isFailure := by
  show [.woke s.label now payload] = .woke s.label now payload :: s.last.filter _
  rw [filter_last]

/-- A script begins the same way. One that panics, and one that ends at once, leave no
note of it. -/
theorem start_unfailing (now : Nat) (payload : α) :
    s.unfailing.start now payload = (s.start now payload).filter fun x => !x.isFailure := by
  obtain ⟨label, detaches, panics, sleeps, ending⟩ := s
  cases panics with
  | some cause => rfl
  | none =>
    cases sleeps with
    | none =>
      -- A script that does not panic notes a failure only where it ends.
      show [.called label now payload] = .called label now payload :: List.filter _ (last _)
      rw [filter_last]
    | some n =>
      cases n with
      | zero =>
        show .called label now payload :: finish (unfailing _) now payload =
          .called label now payload :: List.filter _ (finish _ now payload)
        rw [finish_unfailing]
      | succ n => rfl

/-- A script that panics does not sleep, so it takes no time with or without the
panic. -/
theorem takes?_unfailing : s.unfailing.takes? = s.takes? := by
  obtain ⟨label, detaches, panics, sleeps, ending⟩ := s
  cases panics <;> rfl

end Script

namespace Callback

variable (callback : Callback) (now : Nat) (event : Event StateChange)

/-- What is seen at the beginning of a callback, but for the notes. -/
theorem start_unfailing : callback.unfailing.delivery.start now event =
    (callback.delivery.start now event).filter fun x => !x.isFailure := by
  cases callback with
  | script s => exact s.start_unfailing now event
  | logState => rfl

/-- What is seen at the end of a callback, but for the notes. -/
theorem finish_unfailing : callback.unfailing.delivery.finish now event =
    (callback.delivery.finish now event).filter fun x => !x.isFailure := by
  cases callback with
  | script s => exact s.finish_unfailing now event
  | logState => rfl

/-- A callback takes as long as it did. -/
theorem wakesAt?_unfailing :
    callback.unfailing.delivery.wakesAt? now event = callback.delivery.wakesAt? now event := by
  cases callback with
  | script s => exact congrArg (Option.map (now + ·)) s.takes?_unfailing
  | logState => rfl

/-- A callback takes the same handler out. -/
theorem detaches?_unfailing : callback.unfailing.detaches? = callback.detaches? := by
  cases callback <;> rfl

end Callback

/-! ### Alarms -/

namespace Timeline

variable {κ ι : Type} (f : κ → ι)

/-- The same alarms, each for something else to wake. -/
def map (t : Timeline κ) : Timeline ι := ⟨t.now, t.alarms.map fun a => ⟨a.due, f a.wakes⟩⟩

/-- Which alarm comes first depends on when they are due only. -/
theorem earliest?_map (alarms : List (Alarm κ)) :
    earliest? (alarms.map fun a => (⟨a.due, f a.wakes⟩ : Alarm ι)) = (earliest? alarms).map
      fun p => (⟨p.1.due, f p.1.wakes⟩, p.2.map fun a => ⟨a.due, f a.wakes⟩) := by
  induction alarms with
  | nil => rfl
  | cons a rest ih =>
    rw [List.map_cons, earliest?, earliest?, ih]
    cases earliest? rest with
    | none => rfl
    | some p =>
      dsimp only [Option.map_some]
      split <;> rfl

/-- The same alarm is taken from the timeline. -/
theorem take?_map (t : Timeline κ) (limit : Nat) :
    (t.map f).take? limit = (t.take? limit).map fun p => (f p.1, p.2.map f) := by
  rw [take?, take?, map, earliest?_map]
  cases earliest? t.alarms with
  | none => rfl
  | some p =>
    dsimp only [Option.map_some]
    split <;> rfl

end Timeline

namespace TriggerHandler

/-- A handler whose callback does not fail. -/
def unfailing (h : TriggerHandler) : TriggerHandler := { h with callback := h.callback.unfailing }

/-- A handler decides the same of an event: rules and debouncer never ask for the
callback. -/
theorem meet_unfailing (h : TriggerHandler) (now : Nat) (event : Event StateChange) :
    h.unfailing.meet now event =
      { h.meet now event with handler := (h.meet now event).handler.unfailing } := by
  have same : h.unfailing.rules.judge h.unfailing.timeout event.data =
      h.rules.judge h.timeout event.data := rfl
  unfold meet
  rw [same]
  cases h.rules.judge h.timeout event.data <;> rfl

end TriggerHandler

namespace HandlerAlarm

/-- An alarm for a callback that does not fail. -/
def unfailing : HandlerAlarm → HandlerAlarm
  | .window serial timer => .window serial timer
  | .delivery serial timer callback event => .delivery serial timer callback.unfailing event
  | .turn callback dispatch => .turn callback.unfailing dispatch

/-- An alarm may lead to as much as it did. -/
theorem work_unfailing (alarm : HandlerAlarm) : alarm.unfailing.work = alarm.work := by
  cases alarm <;> rfl

/-- The same alarms keep a handler alive. -/
theorem holds_unfailing (alarm : HandlerAlarm) (serial : Nat) :
    alarm.unfailing.holds serial = alarm.holds serial := by
  cases alarm <;> rfl

end HandlerAlarm

/-! ### Dispatches -/

namespace Dispatcher

/-- A set of handlers whose callbacks do not fail. -/
def unfailing (d : Dispatcher) : Dispatcher where
  timeline := d.timeline.map .unfailing
  handlers := d.handlers.map .unfailing
  set := d.set
  seen := d.seen.filter fun s => !s.happening.isFailure
  reports := d.reports

variable (d : Dispatcher)

@[simp] theorem now_unfailing : d.unfailing.now = d.now := rfl

/-- Handlers are changed in the same way if the change and the erasure of failures can
be swapped. -/
theorem modify_unfailing (serial : Nat) {f g : TriggerHandler → TriggerHandler}
    (same : ∀ h, (f h).unfailing = g h.unfailing) :
    d.unfailing.modify serial g = (d.modify serial f).unfailing := by
  have handlers : (d.handlers.map TriggerHandler.unfailing).modify serial g =
      (d.handlers.modify serial f).map .unfailing := by
    refine List.ext_getElem? fun i => ?_
    rw [List.getElem?_modify, List.getElem?_map, List.getElem?_map, List.getElem?_modify]
    cases d.handlers[i]? with
    | none => rfl
    | some h => by_cases at_ : serial = i <;> simp [at_, same]
  exact congrArg (fun handlers => { d.unfailing with handlers }) handlers

theorem cancel_unfailing (serial : Nat) : d.unfailing.cancel serial = (d.cancel serial).unfailing :=
  d.modify_unfailing serial fun _ => rfl

/-- A handler stands where it stood. -/
theorem getElem?_unfailing (serial : Nat) :
    d.unfailing.handlers[serial]? = d.handlers[serial]?.map .unfailing :=
  List.getElem?_map

/-- The same handler is found behind an id and taken out. -/
theorem detach_unfailing (id : Nat) : d.unfailing.detach id = (d.detach id).unfailing := by
  have found : d.unfailing.set.find? id = d.set.find? id := rfl
  rw [detach, detach, found]
  cases d.set.find? id with
  | none => rfl
  | some a => exact cancel_unfailing { d with set := d.set.detach id } a.serial

/-- The set and the alarms keep the same handlers. -/
theorem holds_unfailing (serial : Nat) : d.unfailing.holds serial = d.holds serial := by
  have alarms : (d.timeline.alarms.map fun a => (⟨a.due, a.wakes.unfailing⟩ : Alarm _)).any
      (fun a => a.wakes.holds serial) = d.timeline.alarms.any fun a => a.wakes.holds serial := by
    rw [List.any_map]
    exact congrArg d.timeline.alarms.any (funext fun a => a.wakes.holds_unfailing serial)
  exact congrArg (d.set.holds serial || ·) alarms

/-- A handler that nobody keeps gives up what waits in it, as before. -/
theorem release_unfailing (a : Attachment) : d.unfailing.release a = (d.release a).unfailing := by
  rw [release, release, holds_unfailing]
  split
  · rfl
  · exact d.cancel_unfailing a.serial

/-- An alarm is set for the same time. -/
theorem arm_unfailing (due : Nat) (alarm : HandlerAlarm) :
    d.unfailing.arm due alarm.unfailing = (d.arm due alarm).unfailing := by
  have alarms : (d.timeline.map HandlerAlarm.unfailing).arm due alarm.unfailing =
      (d.timeline.arm due alarm).map .unfailing := by
    rw [Timeline.arm, Timeline.arm, Timeline.map, Timeline.map, List.map_append]
    rfl
  exact congrArg (fun timeline => { d.unfailing with timeline }) alarms

/-- What is seen is noted, but for the failures. -/
theorem see_unfailing (serial : Nat) (happenings : List (Happening (Event StateChange))) :
    d.unfailing.see serial (happenings.filter fun x => !x.isFailure) =
      (d.see serial happenings).unfailing := by
  have seen : (d.seen.filter fun s => !s.happening.isFailure) ++
      (happenings.filter fun x => !x.isFailure).map (Sighting.mk serial) =
      (d.seen ++ happenings.map (Sighting.mk serial)).filter fun s => !s.happening.isFailure := by
    rw [List.filter_append, List.filter_map]
    rfl
  exact congrArg (fun seen => { d.unfailing with seen }) seen

/-- A callback that begins notes the same and takes the same handler out. -/
theorem start_unfailing (serial : Nat) (callback : Callback) (event : Event StateChange) :
    d.unfailing.start serial callback.unfailing event =
      (d.start serial callback event).unfailing := by
  have begun := d.see_unfailing serial (callback.delivery.start d.now event)
  rw [← callback.start_unfailing] at begun
  have started : d.unfailing.see serial (callback.unfailing.delivery.start d.unfailing.now event) =
      (d.see serial (callback.delivery.start d.now event)).unfailing := begun
  unfold start
  rw [started, callback.detaches?_unfailing]
  cases callback.detaches? with
  | none => rfl
  | some id => exact detach_unfailing _ id

theorem finish_unfailing (serial : Nat) (callback : Callback) (event : Event StateChange) :
    d.unfailing.finish serial callback.unfailing event =
      (d.finish serial callback event).unfailing := by
  rw [finish, callback.finish_unfailing]
  exact d.see_unfailing serial (callback.delivery.finish d.now event)

/-- A timer that delivers sets its alarm for the same time. -/
theorem deliver_unfailing (serial timer : Nat) (callback : Callback) (event : Event StateChange) :
    d.unfailing.deliver serial timer callback.unfailing event =
      (d.deliver serial timer callback event).unfailing := by
  have wakes : callback.unfailing.delivery.wakesAt? d.unfailing.now event =
      callback.delivery.wakesAt? d.now event := callback.wakesAt?_unfailing d.now event
  unfold deliver
  rw [wakes, d.start_unfailing]
  cases callback.delivery.wakesAt? d.now event with
  | none => rfl
  | some due => exact arm_unfailing _ due (.delivery serial timer callback event)

/-- A dispatch goes through its handlers in the same way, is held up at the same one,
and reports the same. -/
theorem proceed_unfailing (owner : DispatchOwner) (event : Event StateChange)
    (as : List Attachment) (report : DispatchReport) :
    proceed owner event as report d.unfailing = (proceed owner event as report d).unfailing := by
  -- Along the handlers to come. Each of them meets the event as it did, so both sides
  -- go into the same branch, with the state that `met` relates.
  induction as generalizing event report d with
  | nil => rfl
  | cons a rest ih =>
    rw [proceed, proceed, getElem?_unfailing]
    cases d.handlers[a.serial]? with
    | none => exact ih d event report
    | some h =>
      have met : (d.unfailing.modify a.serial fun _ => (h.meet d.now event).handler.unfailing) =
          (d.modify a.serial fun _ => (h.meet d.now event).handler).unfailing :=
        d.modify_unfailing a.serial fun _ => rfl
      dsimp only [Option.map_some]
      rw [d.now_unfailing, h.meet_unfailing]
      dsimp only
      rw [met]
      generalize d.modify a.serial (fun _ => (h.meet d.now event).handler) = d'
      cases (h.meet d.now event).effect with
      | none =>
        dsimp only
        rw [release_unfailing, ih]
      | some effect =>
        cases effect with
        | window due timer =>
          dsimp only
          have armed := d'.arm_unfailing due (.window a.serial timer)
          rw [HandlerAlarm.unfailing] at armed
          rw [armed, release_unfailing, ih]
        | deliver event =>
          have wakes : h.unfailing.callback.delivery.wakesAt? d'.unfailing.now event =
              h.callback.delivery.wakesAt? d'.now event :=
            h.callback.wakesAt?_unfailing d'.now event
          have started : d'.unfailing.start a.serial h.unfailing.callback event =
              (d'.start a.serial h.callback event).unfailing :=
            d'.start_unfailing a.serial h.callback event
          dsimp only
          rw [wakes, started]
          cases h.callback.delivery.wakesAt? d'.now event with
          | none =>
            dsimp only
            rw [release_unfailing, ih]
          | some due => exact arm_unfailing _ due (.turn h.callback _)

theorem begin_unfailing (owner : DispatchOwner) (event : Event StateChange) :
    d.unfailing.begin owner event = (d.begin owner event).unfailing :=
  d.proceed_unfailing owner event d.set.attachments .empty

/-- An alarm that rings does the same: it delivers if its timer runs, ends a delivery,
or lets a dispatch go on. -/
theorem fire_unfailing (alarm : HandlerAlarm) :
    d.unfailing.fire alarm.unfailing = (d.fire alarm).unfailing := by
  cases alarm with
  | window serial timer =>
    rw [HandlerAlarm.unfailing, fire, fire, getElem?_unfailing]
    cases d.handlers[serial]? with
    | none => rfl
    | some h =>
      dsimp only [Option.map_some]
      have same : h.unfailing.debouncer = h.debouncer := rfl
      rw [same]
      cases h.debouncer.wake timer with
      | none => rfl
      | some p =>
        have moved := d.modify_unfailing serial (f := fun h => { h with debouncer := p.2 })
          (g := fun h => { h with debouncer := p.2 }) fun _ => rfl
        dsimp only
        rw [moved]
        exact deliver_unfailing _ serial timer h.callback p.1
  | delivery serial timer callback event =>
    have runs : d.unfailing.runs serial timer = d.runs serial timer := by
      rw [Dispatcher.runs, Dispatcher.runs, getElem?_unfailing]
      cases d.handlers[serial]? <;> rfl
    rw [HandlerAlarm.unfailing, fire, fire, runs, finish_unfailing]
    split <;> rfl
  | turn callback x =>
    rw [HandlerAlarm.unfailing, fire, fire, finish_unfailing, release_unfailing, proceed_unfailing]

/-- The same report is collected. -/
theorem takeReport?_unfailing (owner : DispatchOwner) : d.unfailing.takeReport? owner =
    (d.takeReport? owner).map fun p => (p.1, p.2.unfailing) := by
  rw [takeReport?, takeReport?, Option.map_map]
  rfl

/-- There is as much work left, so the same fuel is enough. -/
theorem work_unfailing : d.unfailing.work = d.work := by
  show List.foldr _ 0 (d.timeline.alarms.map _) = _
  rw [List.foldr_map, work]
  congr 1
  funext a n
  exact congrArg (· + n) a.wakes.work_unfailing

end Dispatcher

/-! ### Runs -/

/-- Automations whose callbacks do not fail. -/
def Automations.unfailing (a : Automations) : Automations :=
  { a with dispatcher := a.dispatcher.unfailing }

namespace Runner

/-- A run of automations whose callbacks do not fail. -/
def unfailing (r : Runner) : Runner := { r with automations := r.automations.unfailing }

variable (stamp : Stamp) (r : Runner)

/-- A run takes the same step: it never looks at callbacks, only at what the dispatch
reports. -/
theorem step?_unfailing : r.unfailing.step? stamp = (r.step? stamp).map unfailing := by
  obtain ⟨session, automations, call, run⟩ := r
  rcases run with _ | summary | summary | result
  · rw [unfailing, step?, step?]
    dsimp only
    rcases session.result? call with _ | _ | _ <;> rfl
  · rw [unfailing, step?, step?]
    dsimp only
    cases session.listener? call with
    | none => rfl
    | some l =>
      dsimp only
      rcases session.receiveChange stamp l with ⟨_ | _ | _ | _, session'⟩
      · exact congrArg (fun d => some (setDispatcher ⟨session', automations, call,
          .dispatching summary⟩ d)) (automations.dispatcher.begin_unfailing .run _)
      all_goals rfl
  · rw [unfailing, step?, step?]
    show Option.map _ (automations.dispatcher.unfailing.takeReport? .run) =
      Option.map _ (Option.map _ (automations.dispatcher.takeReport? .run))
    rw [Dispatcher.takeReport?_unfailing, Option.map_map, Option.map_map]
    rfl
  · rfl

/-- A run goes on for as many steps. -/
theorem steps_unfailing (fuel : Nat) :
    steps stamp fuel r.unfailing = (steps stamp fuel r).unfailing := by
  induction fuel generalizing r with
  | zero => rfl
  | succ fuel ih =>
    rw [steps, steps, step?_unfailing]
    cases r.step? stamp with
    | none => rfl
    | some r' => exact ih r'

/-- A run goes on until it waits for the same thing. -/
theorem resume_unfailing : resume stamp r.unfailing = (resume stamp r).unfailing :=
  steps_unfailing stamp r _

/-- An alarm that rings lets a run go on to the same point. -/
theorem fire_unfailing (alarm : HandlerAlarm) (timeline : Timeline HandlerAlarm) :
    r.unfailing.fire stamp alarm.unfailing (timeline.map .unfailing) =
      (r.fire stamp alarm timeline).unfailing := by
  have fired := Dispatcher.fire_unfailing { r.dispatcher with timeline } alarm
  have set : r.unfailing.setDispatcher ({ r.dispatcher with timeline }.fire alarm).unfailing =
      (r.setDispatcher ({ r.dispatcher with timeline }.fire alarm)).unfailing := rfl
  rw [fire, fire, ← resume_unfailing, ← set, ← fired]
  rfl

theorem work_unfailing : r.unfailing.work = r.work :=
  congrArg (· + r.unread * (2 * r.dispatcher.set.size + 1)) r.dispatcher.work_unfailing

/-- The same alarms ring up to a limit. -/
theorem fireUpTo_unfailing (limit fuel : Nat) :
    fireUpTo stamp limit fuel r.unfailing = (fireUpTo stamp limit fuel r).unfailing := by
  induction fuel generalizing r with
  | zero => rfl
  | succ fuel ih =>
    have next : r.unfailing.dispatcher.timeline.take? limit =
        (r.dispatcher.timeline.take? limit).map fun p => (p.1.unfailing, p.2.map .unfailing) :=
      Timeline.take?_map _ _ _
    rw [fireUpTo, fireUpTo, next]
    cases r.dispatcher.timeline.take? limit with
    | none => rfl
    | some p =>
      dsimp only [Option.map_some]
      rw [fire_unfailing, ih]

/-- Time passes in the same way for a run. -/
theorem advance_unfailing (milliseconds : Nat) :
    r.unfailing.advance stamp milliseconds = (r.advance stamp milliseconds).unfailing := by
  rw [advance, advance, work_unfailing]
  dsimp only
  rw [fireUpTo_unfailing]
  rfl

/-- What the hub sends has the same effects on a run. -/
theorem deliver_unfailing (items : List Incoming) :
    r.unfailing.deliver stamp items = (r.deliver stamp items).unfailing := by
  induction items generalizing r with
  | nil => rfl
  | cons item rest ih =>
    show deliver stamp (resume stamp
      (unfailing { r with session := r.session.deliver stamp [item] })) rest = _
    rw [resume_unfailing, ih]
    rfl

/-- A run begins in the same way. -/
theorem start_unfailing (session : Session) (automations : Automations) :
    start stamp session automations.unfailing = (start stamp session automations).unfailing :=
  resume_unfailing stamp
    ⟨(session.call (.listen .typed stateChanged)).settle, automations, session.calls.length,
      .subscribing⟩

end Runner

end HubAutomation
