import HubAutomation.Proofs.Trigger.Detaching
import HubAutomation.Proofs.Trigger.Watching

/-!
# Handlers of a set on their own clocks

Where no callback takes time or changes the set, what becomes of a handler
depends on nothing but what it is shown and how time passes. In a set it does
what it does on a clock of its own: the alarms of the others move the clock, but
only to a time before the next alarm of the handler, and their turns in a
dispatch leave it alone.

- `Callback.Quiet`: a callback that takes no time and leaves the set alone.
- `Timeline.earliest?_filterMap`: the next of some of the alarms.
- `Dispatcher.Follows`: a handler of a set does what it does on its own clock.
- `Dispatcher.Settled`: what holds of a set of quiet handlers between requests.
- `Dispatcher.Settled.dispatch`, `Dispatcher.Settled.advance`: a dispatch and time
  that passes are to each handler what they are on its own clock.
-/

namespace HubAutomation

/-- A callback that takes no time and leaves the set alone. -/
structure Callback.Quiet (callback : Callback) : Prop where
  takesNoTime : ∀ now event, callback.delivery.takes? now event = none
  leavesSet : callback.detaches? = none

/-- A delivery that does not take time has no end to wait for. -/
theorem Callback.Quiet.wakesAt? {callback : Callback} (quiet : callback.Quiet) (now : Nat)
    (event : Event StateChange) : callback.delivery.wakesAt? now event = none := by
  rw [Delivery.wakesAt?, quiet.takesNoTime]
  rfl

/-- A window that a call opens ends later. -/
theorem Debouncer.lt_of_call {α : Type} {b : Debouncer α} {now due timer : Nat} {payload : α}
    (opens : (b.call now payload).2 = .window due timer) : now < due := by
  unfold call at opens
  split at opens
  · cases opens
  · rename_i window
    cases opens
    exact Nat.lt_add_of_pos_right (Nat.pos_of_ne_zero window)

namespace TriggerHandler

variable {h : TriggerHandler} {now : Nat} {event : Event StateChange}

/-- A window does not end in the moment in which it opens. -/
theorem lt_of_meet_window {due timer : Nat}
    (effect : (h.meet now event).effect = some (.window due timer)) : now < due := by
  unfold meet at effect
  split at effect
  · cases effect
  · cases effect
  · cases effect
  · exact Debouncer.lt_of_call (Option.some.inj effect)

/-- What a handler does with an event never changes its callback. -/
theorem callback_meet (h : TriggerHandler) (now : Nat) (event : Event StateChange) :
    (h.meet now event).handler.callback = h.callback := by
  unfold meet
  split <;> rfl

end TriggerHandler

/-! ### The next of some of the alarms -/

namespace Timeline

variable {κ κ' : Type} {a : Alarm κ} {b : Alarm κ'} {alarms others : List (Alarm κ)}
  {f : Alarm κ → Option (Alarm κ')}

/-- An alarm that is due before all the others is the earliest. -/
theorem earliest?_cons_of_le (least : ∀ b ∈ alarms, a.due ≤ b.due) :
    earliest? (a :: alarms) = some (a, alarms) := by
  unfold earliest?
  cases next : earliest? alarms with
  | none => rw [earliest?_eq_none next]
  | some p =>
    have mem := (perm_of_earliest? next).mem_iff.2 List.mem_cons_self
    exact if_pos (least p.1 mem)

/-- Nothing is due before its time. -/
theorem take?_of_later {t : Timeline κ} {limit : Nat} (later : ∀ x ∈ t.alarms, limit < x.due) :
    t.take? limit = none := by
  cases taken : t.take? limit with
  | none => rfl
  | some p =>
    obtain ⟨due, isDue, perm, -, -⟩ := take?_eq_some taken
    exact absurd isDue (Nat.not_le_of_lt (later _ (perm.mem_iff.2 List.mem_cons_self)))

/-- The earliest alarm is taken if it is due, and the clock moves to its time. -/
theorem take?_of_earliest? {t : Timeline κ} {limit : Nat}
    (next : earliest? t.alarms = some (a, others)) (isDue : a.due ≤ limit)
    (ahead : t.now ≤ a.due) : t.take? limit = some (a.wakes, ⟨a.due, others⟩) := by
  rw [take?, next]
  dsimp only
  rw [if_pos isDue, Nat.max_eq_right ahead]

/-- The next alarm is the next one among those that are looked at, if it is one
of them; else none of those is taken. -/
theorem earliest?_filterMap (due : ∀ {a b}, f a = some b → b.due = a.due)
    (next : earliest? alarms = some (a, others)) :
    (f a = none → others.filterMap f = alarms.filterMap f) ∧
      ∀ {b}, f a = some b → earliest? (alarms.filterMap f) = some (b, others.filterMap f) := by
  induction alarms generalizing a others with
  | nil => cases next
  | cons c rest ih =>
    -- Where the first alarm is the next one, nothing that is looked at comes before it.
    have first : (∀ x ∈ rest, c.due ≤ x.due) → a = c → others = rest →
        (f a = none → others.filterMap f = (c :: rest).filterMap f) ∧
          ∀ {b}, f a = some b →
            earliest? ((c :: rest).filterMap f) = some (b, others.filterMap f) := by
      rintro least rfl rfl
      refine ⟨fun unseen => (List.filterMap_cons_none unseen).symm, fun {b} seen => ?_⟩
      rw [List.filterMap_cons_some seen]
      refine earliest?_cons_of_le fun y mem => ?_
      obtain ⟨x, isThere, image⟩ := List.mem_filterMap.1 mem
      rw [due seen, due image]
      exact least x isThere
    unfold earliest? at next
    split at next
    · rename_i none_
      cases next
      rw [earliest?_eq_none none_] at first ⊢
      exact first (fun _ mem => absurd mem List.not_mem_nil) rfl rfl
    · rename_i e es some_
      split at next
      · rename_i le
        cases next
        have least := due_le_of_earliest? some_
        exact first (fun x mem => le.trans (least x mem)) rfl rfl
      · rename_i later
        cases next
        obtain ⟨unseen, seen⟩ := ih some_
        constructor
        · intro none_
          rw [List.filterMap_cons, List.filterMap_cons, unseen none_]
        · intro b image
          cases looked : f c with
          | none =>
            rw [List.filterMap_cons_none looked, List.filterMap_cons_none looked, seen image]
          | some x =>
            have notFirst : ¬ x.due ≤ b.due := by rwa [due looked, due image]
            rw [List.filterMap_cons_some looked, List.filterMap_cons_some looked, earliest?,
              seen image]
            exact if_neg notFirst

end Timeline

namespace Dispatcher

variable {d d' : Dispatcher} {a b : Attachment} {h : TriggerHandler} {serial : Nat}
  {event : Event StateChange} {w : Watch}

/-! ### One handler of a set -/

/-- What was seen of a handler. -/
def heard (d : Dispatcher) (serial : Nat) : List (Happening (Event StateChange)) :=
  d.seen.filterMap fun s => if s.serial = serial then some s.happening else none

/-- The window of a handler that an alarm ends. -/
def window? (serial : Nat) (a : Alarm HandlerAlarm) :
    Option (Alarm (DebounceAlarm (Event StateChange))) :=
  match a.wakes with
  | .window own timer => if own = serial then some ⟨a.due, .window timer⟩ else none
  | _ => none

/-- The windows of a handler. -/
def windows (d : Dispatcher) (serial : Nat) : List (Alarm (DebounceAlarm (Event StateChange))) :=
  d.timeline.alarms.filterMap (window? serial)

/-- The alarm of a window is due when the debouncer's own one is. -/
theorem due_of_window? {alarm : Alarm HandlerAlarm}
    {own : Alarm (DebounceAlarm (Event StateChange))} (is : window? serial alarm = some own) :
    own.due = alarm.due := by
  unfold window? at is
  split at is
  · split at is
    · cases is
      rfl
    · cases is
  · cases is

/-- A handler of a set is, waits and has delivered as it is, waits and has
delivered on a clock of its own. -/
structure Follows (d : Dispatcher) (serial : Nat) (w : Watch) : Prop where
  handler : d.handlers[serial]? = some w.handler
  windows : d.windows serial = w.calls.timeline.alarms
  heard : d.heard serial = w.calls.begun.flatMap fun x => w.callback.delivery.start x.1 x.2
  delivery : w.calls.delivery = w.callback.delivery

/-- Whether a handler follows its own clock depends on the handler, its windows and
what is heard of it. -/
theorem Follows.congr (follows : d.Follows serial w)
    (handler : d'.handlers[serial]? = d.handlers[serial]?)
    (windows : d'.windows serial = d.windows serial) (heard : d'.heard serial = d.heard serial) :
    d'.Follows serial w :=
  ⟨handler.trans follows.handler, windows.trans follows.windows, heard.trans follows.heard,
    follows.delivery⟩

/-- Only what is seen of a handler is heard of it. -/
theorem heard_see (d : Dispatcher) (own serial : Nat)
    (happenings : List (Happening (Event StateChange))) :
    (d.see own happenings).heard serial =
      d.heard serial ++ if own = serial then happenings else [] := by
  show (d.seen ++ happenings.map (Sighting.mk own)).filterMap _ = _
  rw [List.filterMap_append, List.filterMap_map]
  congr 1
  split
  · rename_i same
    simp [same]
  · rename_i other
    simp [other]

/-- Only a handler's own window is set for it. -/
theorem windows_arm (d : Dispatcher) (own timer due serial : Nat) :
    (d.arm due (.window own timer)).windows serial =
      d.windows serial ++ if own = serial then [⟨due, .window timer⟩] else [] := by
  show (d.timeline.alarms ++ [_]).filterMap _ = _
  rw [List.filterMap_append]
  congr 1
  by_cases same : own = serial <;> simp [window?, same]

/-! ### Turns of quiet handlers -/

/-- All callbacks take no time and leave the set alone, and all alarms are
windows. -/
structure Quiet (d : Dispatcher) : Prop where
  callbacks : ∀ h ∈ d.handlers, h.callback.Quiet
  windows : ∀ x ∈ d.timeline.alarms, ∃ serial timer, x.wakes = .window serial timer

/-- A quiet callback does all that it does at once, and takes nobody out. -/
theorem start_quiet (quiet : h.callback.Quiet) (d : Dispatcher) (serial : Nat)
    (event : Event StateChange) :
    d.start serial h.callback event =
      d.see serial (h.callback.delivery.start d.now event) := by
  unfold start
  rw [quiet.leavesSet]

/-- What comes of what a handler asks for when it is shown an event. -/
def undergo (d : Dispatcher) (serial : Nat) (callback : Callback) :
    Option (CallEffect (Event StateChange)) → Dispatcher
  | none => d
  | some (.window due timer) => d.arm due (.window serial timer)
  | some (.deliver event) => d.see serial (callback.delivery.start d.now event)

/-- A quiet handler was shown an event. -/
def shown (d : Dispatcher) (a : Attachment) (h : TriggerHandler) (event : Event StateChange) :
    Dispatcher :=
  (d.met a h event).undergo a.serial h.callback (h.meet d.now event).effect

/-- A turn with a quiet handler is over at once. -/
theorem proceed_cons_quiet (quiet : h.callback.Quiet) (at_ : d.handlers[b.serial]? = some h)
    (owner : DispatchOwner) (event : Event StateChange) (rest : List Attachment)
    (report : DispatchReport) :
    proceed owner event (b :: rest) report d =
      proceed owner event rest (report.add b.id (h.meet d.now event).failed)
        ((d.shown b h event).release b) := by
  rw [proceed, at_]
  unfold shown
  dsimp only
  rcases effect : (h.meet d.now event).effect with _ | ⟨event'⟩ | ⟨due, timer⟩
  · rfl
  · obtain rfl := TriggerHandler.eq_of_meet_deliver effect
    dsimp only
    rw [quiet.wakesAt?, start_quiet quiet]
    rfl
  · rfl

/-- Who is let go still stands among the handlers. -/
theorem length_release (d : Dispatcher) (a : Attachment) :
    (d.release a).handlers.length = d.handlers.length := by
  unfold release
  split
  · rfl
  · exact length_modify ..

/-- Letting a handler go touches no alarm. -/
theorem windows_release (d : Dispatcher) (a : Attachment) (serial : Nat) :
    (d.release a).windows serial = d.windows serial := by rw [windows, timeline_release, windows]

/-- Letting a handler go makes no noise. -/
theorem heard_release (d : Dispatcher) (a : Attachment) (serial : Nat) :
    (d.release a).heard serial = d.heard serial := by rw [heard, seen_release, heard]

@[simp] theorem now_release (d : Dispatcher) (a : Attachment) : (d.release a).now = d.now := by
  rw [now, timeline_release, now]

section Shown

variable (d : Dispatcher) (a : Attachment) (h : TriggerHandler) (event : Event StateChange)

/-- What a turn leaves of a set, part by part: the handlers are those that met the
event. -/
theorem handlers_shown : (d.shown a h event).handlers = (d.met a h event).handlers := by
  unfold shown
  rcases (h.meet d.now event).effect with _ | _ | _ <;> rfl

theorem set_shown : (d.shown a h event).set = d.set := by
  unfold shown
  rcases (h.meet d.now event).effect with _ | _ | _ <;> rfl

theorem reports_shown : (d.shown a h event).reports = d.reports := by
  unfold shown
  rcases (h.meet d.now event).effect with _ | _ | _ <;> rfl

theorem now_shown : (d.shown a h event).now = d.now := by
  unfold shown
  rcases (h.meet d.now event).effect with _ | _ | _ <;> rfl

/-- After a turn, the handler has a window more if it opened one. -/
theorem windows_shown (serial : Nat) :
    (d.shown a h event).windows serial = d.windows serial ++
      match (h.meet d.now event).effect with
      | some (.window due timer) => if a.serial = serial then [⟨due, .window timer⟩] else []
      | _ => [] := by
  unfold shown
  rcases (h.meet d.now event).effect with _ | _ | ⟨due, timer⟩
  · exact (List.append_nil _).symm
  · exact (List.append_nil _).symm
  · exact windows_arm (d.met a h event) a.serial timer due serial

/-- After a turn, what a delivery does is heard of the handler. -/
theorem heard_shown (serial : Nat) :
    (d.shown a h event).heard serial = d.heard serial ++
      match (h.meet d.now event).effect with
      | some (.deliver event) =>
        if a.serial = serial then h.callback.delivery.start d.now event else []
      | _ => [] := by
  unfold shown
  rcases (h.meet d.now event).effect with _ | event' | _
  · exact (List.append_nil _).symm
  · exact heard_see (d.met a h event) a.serial serial _
  · exact (List.append_nil _).symm

/-- A turn sets no alarm that is due at once. -/
theorem alarms_shown {x : Alarm HandlerAlarm}
    (mem : x ∈ (d.shown a h event).timeline.alarms) :
    x ∈ d.timeline.alarms ∨ ∃ timer, x.wakes = .window a.serial timer ∧ d.now < x.due := by
  unfold shown at mem
  rcases effect : (h.meet d.now event).effect with _ | _ | ⟨due, timer⟩
  · rw [effect] at mem
    exact .inl mem
  · rw [effect] at mem
    exact .inl mem
  · rw [effect] at mem
    refine (List.mem_append.1 mem).imp_right fun new => ?_
    obtain rfl := List.mem_singleton.1 new
    exact ⟨timer, rfl, TriggerHandler.lt_of_meet_window effect⟩

end Shown

/-- The turn of another handler leaves a handler alone. -/
theorem Follows.shown_other (follows : d.Follows serial w) (other : b.serial ≠ serial)
    (h : TriggerHandler) (event : Event StateChange) :
    (d.shown b h event).Follows serial w := by
  refine follows.congr ?_ ?_ ?_
  · rw [handlers_shown, met, getElem?_modify, if_neg other]
  · rw [windows_shown]
    split <;> simp [other]
  · rw [heard_shown]
    split <;> simp [other]

/-- Letting go of one handler does not disturb another one. -/
theorem Follows.release_other (follows : d.Follows serial w) (other : b.serial ≠ serial) :
    (d.release b).Follows serial w := by
  unfold release
  split
  · exact follows
  · exact follows.congr ((getElem?_modify d _ _ _).trans (if_neg other)) rfl rfl

end Dispatcher

/-! ### A handler on its own clock -/

namespace Debounced

variable {α : Type}

/-- A debouncer's clock does not move while an alarm rings. -/
theorem now_fire (d : Debounced α) (wakes : DebounceAlarm α) : (d.fire wakes).now = d.now := by
  unfold fire
  split
  · split
    · unfold deliver
      dsimp only
      split <;> rfl
    · rfl
  · split <;> rfl

/-- Up to a time before every alarm, nothing happens. -/
theorem fireUpTo_of_later {d : Debounced α} {limit : Nat}
    (later : ∀ x ∈ d.timeline.alarms, limit < x.due) (fuel : Nat) :
    fireUpTo limit fuel d = d := by
  cases fuel with
  | zero => rfl
  | succ fuel => rw [fireUpTo, Timeline.take?_of_later later]

/-- A delivery that is over at once is only begun. -/
theorem deliver_of_none {d : Debounced α} {payload : α}
    (atOnce : d.delivery.wakesAt? d.now payload = none) (timer : Nat) :
    d.deliver timer payload = d.begin payload := by
  unfold deliver
  rw [atOnce]

/-- So is a delivery without a window. -/
theorem deliverNow_of_none {d : Debounced α} {payload : α}
    (atOnce : d.delivery.wakesAt? d.now payload = none) :
    d.deliverNow payload = d.begin payload := by
  unfold deliverNow
  rw [atOnce]

/-- A debouncer has at least as much work as it has alarms. -/
theorem length_le_work (d : Debounced α) : d.timeline.alarms.length ≤ d.work := by
  unfold work
  induction d.timeline.alarms with
  | nil => exact Nat.le_refl 0
  | cons x rest ih =>
    have some_ : 0 < x.wakes.work := by cases x.wakes <;> exact Nat.succ_pos _
    rw [List.foldr_cons, List.length_cons]
    omega

end Debounced

namespace Watch

variable {w : Watch}

/-- What comes of an event that is shown to a handler on its own clock. -/
theorem act_event_effect (quiet : w.callback.Quiet)
    (delivery : w.calls.delivery = w.callback.delivery) (event : Event StateChange) :
    (w.act (.event event)).calls.timeline.alarms = w.calls.timeline.alarms ++
        (match (w.handler.meet w.calls.now event).effect with
        | some (.window due timer) => [⟨due, .window timer⟩]
        | _ => []) ∧
      (w.act (.event event)).calls.begun = w.calls.begun ++
        (match (w.handler.meet w.calls.now event).effect with
        | some (.deliver event) => [(w.calls.now, event)]
        | _ => []) ∧
      (w.act (.event event)).calls.now = w.calls.now ∧
      (w.act (.event event)).calls.delivery = w.calls.delivery := by
  have judged : w.handler.rules.judge w.handler.timeout event.data = w.verdict event.data := rfl
  rw [act_event]
  unfold TriggerHandler.meet
  rw [judged]
  cases w.verdict event.data with
  | contradiction => simp
  | nothing => simp
  | cancels => simp [cancel, Debounced.cancel, Debounced.begun, Debounced.now]
  | qualifies =>
    have same : w.handler.debouncer.cancel.2.call w.calls.now event =
        w.calls.cancel.2.debouncer.call w.calls.cancel.2.now event := rfl
    dsimp only
    rw [same]
    unfold Debounced.call
    generalize w.calls.cancel.2.debouncer.call w.calls.cancel.2.now event = called
    obtain ⟨debouncer, event' | ⟨due, timer⟩⟩ := called
    -- A delivery that is over at once leaves no alarm.
    · have atOnce : w.calls.delivery.wakesAt? w.calls.now event' = none := by
        rw [delivery, quiet.wakesAt?]
      have delivered : Debounced.deliverNow { w.calls.cancel.2 with debouncer } event' =
          Debounced.begin { w.calls.cancel.2 with debouncer } event' :=
        Debounced.deliverNow_of_none atOnce
      dsimp only
      rw [delivered]
      exact ⟨(List.append_nil _).symm, Debounced.begun_begin _ _, rfl, rfl⟩
    · exact ⟨rfl, (List.append_nil _).symm, rfl, rfl⟩

/-- A handler fails on an event that its rules contradict each other on. -/
theorem failed_meet (w : Watch) (now : Nat) (event : Event StateChange) :
    (w.handler.meet now event).failed = true ↔ w.verdict event.data = .contradiction := by
  have judged : w.handler.rules.judge w.handler.timeout event.data = w.verdict event.data := rfl
  unfold TriggerHandler.meet
  rw [judged]
  cases w.verdict event.data <;> simp

/-- A watch keeps its callback. -/
theorem callback_act (w : Watch) (a : Act) : (w.act a).callback = w.callback := by
  cases a with
  | cancel => rfl
  | advance milliseconds => rfl
  | event e =>
    rw [act_event]
    cases w.verdict e.data <;> rfl

theorem callback_actAll (w : Watch) (acts : List Act) : (w.actAll acts).callback = w.callback := by
  induction acts generalizing w with
  | nil => rfl
  | cons a rest ih => rw [actAll_cons, ih, callback_act]

end Watch

/-! ### Dispatches -/

namespace Dispatcher

variable {d d' : Dispatcher} {a b : Attachment} {h : TriggerHandler} {serial : Nat}
  {event : Event StateChange} {w : Watch}

/-- The turn of a handler is what the event does to it on its own clock. -/
theorem Follows.shown_own (follows : d.Follows a.serial w) (clock : w.calls.now = d.now)
    (quiet : w.callback.Quiet) (event : Event StateChange) :
    (d.shown a w.handler event).Follows a.serial (w.act (.event event)) := by
  obtain ⟨alarms, begun, -, delivery⟩ := w.act_event_effect quiet follows.delivery event
  have handler := (w.handler_act event).2
  rw [clock] at alarms begun handler
  constructor
  case handler =>
    rw [handlers_shown, met, getElem?_modify, if_pos rfl, follows.handler, handler]
    rfl
  case windows =>
    rw [windows_shown, follows.windows, alarms]
    split <;> simp
  case heard =>
    rw [heard_shown, follows.heard, begun, Watch.callback_act, List.flatMap_append]
    congr 1
    split <;> simp [Watch.handler]
  case delivery => rw [delivery, Watch.callback_act, follows.delivery]

/-- A set of quiet handlers between two requests: nothing is under way, and all
alarms are yet to come. -/
structure Settled (d : Dispatcher) : Prop where
  quiet : d.Quiet
  rested : ∀ x ∈ d.timeline.alarms, d.now < x.due
  calm : d.reports = []
  set : d.set.Sound d.handlers.length
  /-- Nothing was seen of a handler that is yet to come, and it waits for nothing. -/
  fresh : ∀ serial, d.handlers.length ≤ serial → d.windows serial = [] ∧ d.heard serial = []

/-- A handler of the set does what it does on a clock of its own. -/
structure Attends (d : Dispatcher) (a : Attachment) (w : Watch) : Prop where
  within : a ∈ d.set.attachments
  clock : w.calls.now = d.now
  follows : d.Follows a.serial w

/-- A set whose callbacks are quiet stays quiet if the handler that is changed keeps a
quiet one. -/
theorem Quiet.modify (quiet : d.Quiet) {f : TriggerHandler → TriggerHandler}
    (keeps : ∀ {h}, d.handlers[serial]? = some h → (f h).callback.Quiet) :
    (d.modify serial f).Quiet := by
  refine ⟨fun h mem => ?_, quiet.windows⟩
  obtain ⟨i, at_⟩ := List.mem_iff_getElem?.1 mem
  rw [getElem?_modify] at at_
  split at at_
  · rename_i same
    subst same
    obtain ⟨old, was, rfl⟩ := Option.map_eq_some_iff.1 at_
    exact keeps was
  · exact quiet.callbacks h (List.mem_of_getElem? at_)

theorem Quiet.cancel (quiet : d.Quiet) (serial : Nat) : (d.cancel serial).Quiet :=
  quiet.modify fun {h} at_ => quiet.callbacks h (List.mem_of_getElem? at_)

/-- Letting a handler go keeps the others quiet. -/
theorem Quiet.release (quiet : d.Quiet) (a : Attachment) : (d.release a).Quiet := by
  unfold Dispatcher.release
  split
  · exact quiet
  · exact quiet.cancel _

/-- A turn keeps the callbacks quiet. -/
theorem Quiet.shown (quiet : d.Quiet) (at_ : d.handlers[a.serial]? = some h)
    (event : Event StateChange) : (d.shown a h event).Quiet := by
  have met : (d.met a h event).Quiet := quiet.modify fun _ => by
    rw [TriggerHandler.callback_meet]
    exact quiet.callbacks h (List.mem_of_getElem? at_)
  constructor
  · rw [handlers_shown]
    exact met.callbacks
  · intro x mem
    rcases d.alarms_shown a h event mem with old | ⟨timer, window, -⟩
    · exact quiet.windows x old
    · exact ⟨_, timer, window⟩

/-- A turn settles. -/
theorem Settled.turn (settled : d.Settled) (at_ : d.handlers[a.serial]? = some h)
    (event : Event StateChange) : ((d.shown a h event).release a).Settled where
  quiet := (settled.quiet.shown at_ event).release a
  rested := by
    intro x mem
    rw [timeline_release] at mem
    rw [now_release, now_shown]
    rcases d.alarms_shown a h event mem with old | ⟨-, -, later⟩
    · exact settled.rested x old
    · exact later
  calm := by rw [reports_release, reports_shown, settled.calm]
  set := by
    have same : (d.met a h event).Keeps (d.shown a h event) :=
      .of_eq (handlers_shown d a h event) (set_shown d a h event)
    exact (((keeps_met at_ event).trans same).trans (keeps_release _ a)).set settled.set
  fresh := by
    intro serial le
    rw [length_release, handlers_shown, met, length_modify] at le
    have other : a.serial ≠ serial :=
      ((List.getElem?_eq_some_iff.1 at_).1.trans_le le).ne
    obtain ⟨noWindow, nothing⟩ := settled.fresh serial le
    rw [windows_release, heard_release, windows_shown, heard_shown, noWindow, nothing]
    constructor <;> split <;> simp [other]

/-- The turn of another handler leaves a handler alone. -/
theorem Attends.turn_other (attends : d.Attends a w) (other : b.serial ≠ a.serial)
    (h : TriggerHandler) (event : Event StateChange) :
    ((d.shown b h event).release b).Attends a w where
  within := by
    rw [set_release, set_shown]
    exact attends.within
  clock := by rw [attends.clock, now_release, now_shown]
  follows := (attends.follows.shown_other other h event).release_other other

/-- In its own turn a handler does what it does on its own clock. -/
theorem Attends.turn_own (attends : d.Attends a w) (settled : d.Settled)
    (event : Event StateChange) :
    ((d.shown a w.handler event).release a).Attends a (w.act (.event event)) := by
  have at_ := attends.follows.handler
  have quiet : w.callback.Quiet := settled.quiet.callbacks _ (List.mem_of_getElem? at_)
  have kept : (d.shown a w.handler event).release a = d.shown a w.handler event := by
    refine if_pos ?_
    rw [holds, set_shown]
    exact Bool.or_eq_true_iff.2 (.inl (List.any_eq_true.2 ⟨a, attends.within, by simp⟩))
  rw [kept]
  refine ⟨?_, ?_, attends.follows.shown_own attends.clock quiet event⟩
  · rw [set_shown]
    exact attends.within
  · rw [(w.act_event_effect quiet attends.follows.delivery event).2.2.1, attends.clock, now_shown]

/-- Who failed in a report is who had failed before, or the one that was added. -/
theorem failed_add (report : DispatchReport) (own id : Nat) (failed : Bool) :
    id ∈ (report.add own failed).failed ↔ id ∈ report.failed ∨ own = id ∧ failed = true := by
  unfold DispatchReport.add
  split
  · rename_i isFailed
    simp [isFailed, eq_comm]
  · rename_i notFailed
    simp [notFailed]

/-- A dispatch to quiet handlers comes to its end at once. Each handler has done
what it does on its own clock, and has failed where it fails there. -/
theorem Settled.proceed (settled : d.Settled) (owner : DispatchOwner) (event : Event StateChange)
    (as : List Attachment) (there : ∀ b ∈ as, b ∈ d.set.attachments)
    (distinct : (as.map Attachment.serial).Nodup) (report : DispatchReport) :
    ∃ (d' : Dispatcher) (report' : DispatchReport),
      Dispatcher.proceed owner event as report d =
        { d' with reports := d'.reports ++ [(owner, report')] } ∧
      d'.Settled ∧ d'.set = d.set ∧
      ∀ a w, d.Attends a w →
        d'.Attends a (if a ∈ as then w.act (.event event) else w) ∧
        (a.id ∈ report'.failed ↔
          a.id ∈ report.failed ∨ a ∈ as ∧ w.verdict event.data = .contradiction) := by
  -- Along the handlers to come; every one of them is in the set under its own id, so
  -- the turn of one is not taken for that of another.
  induction as generalizing d report with
  | nil => exact ⟨d, report, rfl, settled, rfl, fun a w attends => by simpa using attends⟩
  | cons b rest ih =>
    have lt := settled.set.known b (there b List.mem_cons_self)
    have at_ : d.handlers[b.serial]? = some d.handlers[b.serial] := List.getElem?_eq_getElem lt
    generalize d.handlers[b.serial] = h at at_
    have quiet := settled.quiet.callbacks h (List.mem_of_getElem? at_)
    rw [proceed_cons_quiet quiet at_]
    rw [List.map_cons, List.nodup_cons] at distinct
    have set : ((d.shown b h event).release b).set = d.set := by rw [set_release, set_shown]
    obtain ⟨d', report', ends, settled', set', both⟩ := ih (settled.turn at_ event)
      (fun x mem => set ▸ there x (List.mem_cons_of_mem b mem)) distinct.2
      (report.add b.id (h.meet d.now event).failed)
    refine ⟨d', report', ends, settled', set'.trans set, fun a w attends => ?_⟩
    by_cases own : b = a
    · subst own
      have notAgain : b ∉ rest := fun mem => distinct.1 (List.mem_map_of_mem mem)
      obtain rfl : w.handler = h := Option.some.inj (attends.follows.handler.symm.trans at_)
      obtain ⟨attends', failed⟩ := both b _ (attends.turn_own settled event)
      rw [if_neg notAgain] at attends'
      refine ⟨by rwa [if_pos List.mem_cons_self], ?_⟩
      rw [failed, failed_add, Watch.failed_meet]
      simp [notAgain]
    · have isThere := there b List.mem_cons_self
      have other : b.serial ≠ a.serial := fun same => own
        (List.inj_on_of_nodup_map settled.set.serials isThere attends.within same)
      have otherId : b.id ≠ a.id := fun same => own
        (List.inj_on_of_nodup_map settled.set.ids isThere attends.within same)
      obtain ⟨attends', failed⟩ := both a w (attends.turn_other other h event)
      have later : a ∈ b :: rest ↔ a ∈ rest := by simp [Ne.symm own]
      simp only [later]
      refine ⟨attends', ?_⟩
      rw [failed, failed_add]
      simp [otherId]

/-- Up to a time before every alarm, a set does nothing. -/
theorem fireUpTo_of_later {limit : Nat} (later : ∀ x ∈ d.timeline.alarms, limit < x.due)
    (fuel : Nat) : fireUpTo limit fuel d = d := by
  cases fuel with
  | zero => rfl
  | succ fuel => rw [fireUpTo, Timeline.take?_of_later later]

/-- A report that is there is not waited for. -/
theorem fireUntilReport_of_there {report : DispatchReport}
    (isThere : d.takeReport? .request = some (report, d')) (fuel : Nat) :
    fireUntilReport fuel d = (d', report) := by
  unfold fireUntilReport
  split
  · rename_i taken
    cases isThere.symm.trans taken
    rfl
  · rename_i none_
    cases isThere.symm.trans none_
  · rename_i none_
    cases isThere.symm.trans none_

/-- A dispatch leaves the set settled. A handler of the set has done what the
event does to it on its own clock, and has failed where it fails there. -/
theorem Settled.dispatch (settled : d.Settled) (event : Event StateChange) :
    (d.dispatch event).1.Settled ∧ ∀ a w, d.Attends a w →
      (d.dispatch event).1.Attends a (w.act (.event event)) ∧
      (a.id ∈ (d.dispatch event).2.failed ↔ w.verdict event.data = .contradiction) := by
  obtain ⟨d', report, ends, settled', -, both⟩ := settled.proceed .request event
    d.set.attachments (fun _ mem => mem) settled.set.serials .empty
  have isThere : (d.begin .request event).takeReport? .request = some (report, d') := by
    rw [begin, ends]
    have calm := settled'.calm
    obtain ⟨timeline, handlers, set, seen, reports⟩ := d'
    subst calm
    rfl
  have dispatched : d.dispatch event = (d', report) := by
    unfold Dispatcher.dispatch
    dsimp only
    rw [fireUntilReport_of_there isThere]
    exact congrArg (·, report) (fireUpTo_of_later settled'.rested _)
  rw [dispatched]
  refine ⟨settled', fun a w attends => ?_⟩
  obtain ⟨attends', failed⟩ := both a w attends
  rw [if_pos attends.within] at attends'
  refine ⟨attends', failed.trans ?_⟩
  simp [DispatchReport.empty, attends.within]

/-! ### Time -/

/-- The payload of a window, if it is still there. -/
def payload? (d : Dispatcher) (serial timer : Nat) :
    Option (TriggerHandler × Event StateChange × Debouncer (Event StateChange)) :=
  d.handlers[serial]?.bind fun h => (h.debouncer.wake timer).map (h, ·)

/-- A window that ends is a delivery that is over at once, or nothing. -/
theorem Quiet.fire_window (quiet : d.Quiet) (serial timer : Nat) :
    d.fire (.window serial timer) =
      match d.payload? serial timer with
      | some (h, event, debouncer) =>
        (d.modify serial fun h => { h with debouncer }).see serial
          (h.callback.delivery.start d.now event)
      | none => d := by
  unfold fire payload?
  dsimp only
  cases at_ : d.handlers[serial]? with
  | none => rfl
  | some h =>
    have calm := quiet.callbacks h (List.mem_of_getElem? at_)
    dsimp only [Option.bind_some]
    cases h.debouncer.wake timer with
    | none => rfl
    | some p =>
      dsimp only [Option.map_some]
      unfold deliver
      rw [calm.wakesAt?, start_quiet calm]
      rfl

/-- What the end of windows leaves alone. -/
structure Spares (d d' : Dispatcher) : Prop where
  set : d'.set = d.set
  reports : d'.reports = d.reports
  count : d'.handlers.length = d.handlers.length
  alarms : ∀ x ∈ d'.timeline.alarms, x ∈ d.timeline.alarms
  heard : ∀ serial, d.handlers.length ≤ serial → d'.heard serial = d.heard serial

theorem Spares.refl (d : Dispatcher) : d.Spares d :=
  ⟨rfl, rfl, rfl, fun _ mem => mem, fun _ _ => rfl⟩

/-- What both of two changes spare is spared by them together. -/
theorem Spares.trans {d'' : Dispatcher} (first : d.Spares d') (second : d'.Spares d'') :
    d.Spares d'' where
  set := second.set.trans first.set
  reports := second.reports.trans first.reports
  count := second.count.trans first.count
  alarms := fun x mem => first.alarms x (second.alarms x mem)
  heard := fun serial le => (second.heard serial (first.count ▸ le)).trans (first.heard serial le)

/-- The end of a window keeps a set quiet and touches no more than it has to. -/
theorem Quiet.fire (quiet : d.Quiet) (serial timer : Nat) :
    (d.fire (.window serial timer)).Quiet ∧ d.Spares (d.fire (.window serial timer)) ∧
      (d.fire (.window serial timer)).timeline = d.timeline := by
  rw [quiet.fire_window]
  split
  · rename_i h event debouncer woken
    have modified : (d.modify serial fun h => { h with debouncer }).Quiet :=
      quiet.modify fun {h} at_ => quiet.callbacks h (List.mem_of_getElem? at_)
    have lt : serial < d.handlers.length := by
      obtain ⟨_, at_, -⟩ := Option.bind_eq_some_iff.1 woken
      exact (List.getElem?_eq_some_iff.1 at_).1
    refine ⟨⟨modified.callbacks, quiet.windows⟩,
      ⟨rfl, rfl, length_modify .., fun _ mem => mem, fun other le => ?_⟩, rfl⟩
    rw [heard_see, if_neg (lt.trans_le le).ne, List.append_nil]
    rfl
  · exact ⟨quiet, .refl d, rfl⟩

/-- The window of another handler leaves a handler alone. -/
theorem Follows.fire_other (follows : d.Follows serial w) (quiet : d.Quiet) {own : Nat}
    (other : own ≠ serial) (timer : Nat) : (d.fire (.window own timer)).Follows serial w := by
  rw [quiet.fire_window]
  split
  · refine follows.congr ((getElem?_modify d _ _ _).trans (if_neg other)) rfl ?_
    rw [heard_see, if_neg other, List.append_nil]
    rfl
  · exact follows

/-- The end of a window is the same for a handler in a set and on its own clock. -/
theorem Follows.fire_own (follows : d.Follows serial w) (quiet : d.Quiet)
    (clock : w.calls.now = d.now) (timer : Nat) :
    (d.fire (.window serial timer)).Follows serial
      { w with calls := w.calls.fire (.window timer) } := by
  have calm := quiet.callbacks _ (List.mem_of_getElem? follows.handler)
  rw [quiet.fire_window, payload?, follows.handler]
  have wake : w.handler.debouncer.wake timer = w.calls.debouncer.wake timer := rfl
  unfold Debounced.fire
  dsimp only [Option.bind_some]
  rw [wake]
  cases w.calls.debouncer.wake timer with
  | none => exact follows
  | some p =>
    obtain ⟨event, debouncer⟩ := p
    have atOnce : w.calls.delivery.wakesAt? w.calls.now event = none := by
      rw [follows.delivery]
      exact calm.wakesAt? _ _
    have delivered : Debounced.deliver { w.calls with debouncer } timer event =
        Debounced.begin { w.calls with debouncer } event :=
      Debounced.deliver_of_none (d := { w.calls with debouncer }) atOnce timer
    dsimp only [Option.map_some]
    rw [delivered]
    refine ⟨?_, follows.windows, ?_, follows.delivery⟩
    · show (d.modify _ _).handlers[serial]? = _
      rw [getElem?_modify, if_pos rfl, follows.handler]
      rfl
    · rw [heard_see, if_pos rfl, Debounced.begun_begin, List.flatMap_append]
      show d.heard serial ++ _ = _
      rw [follows.heard, ← clock]
      congr 1
      exact (List.append_nil _).symm

/-- While alarms go off, the clock of a set runs ahead of the clock of one of its
handlers, but no alarm is missed. -/
structure Trails (d : Dispatcher) (serial : Nat) (w : Watch) : Prop where
  quiet : d.Quiet
  ahead : ∀ x ∈ d.timeline.alarms, d.now ≤ x.due
  clock : w.calls.now ≤ d.now
  follows : d.Follows serial w

/-- The clock is moved to the next alarm. -/
def movedTo (d : Dispatcher) (due : Nat) (others : List (Alarm HandlerAlarm)) : Dispatcher :=
  { d with timeline := ⟨due, others⟩ }

/-- The next alarm is a window, and the clock moves to its end. -/
theorem Quiet.next {alarm : HandlerAlarm} {timeline : Timeline HandlerAlarm} {limit : Nat}
    (quiet : d.Quiet) (ahead : ∀ x ∈ d.timeline.alarms, d.now ≤ x.due)
    (taken : d.timeline.take? limit = some (alarm, timeline)) :
    ∃ due own timer others, d.now ≤ due ∧ due ≤ limit ∧ (∀ y ∈ others, due ≤ y.due) ∧
      Timeline.earliest? d.timeline.alarms = some (⟨due, .window own timer⟩, others) ∧
      (d.movedTo due others).Quiet ∧
      { d with timeline }.fire alarm = (d.movedTo due others).fire (.window own timer) := by
  cases next : Timeline.earliest? d.timeline.alarms with
  | none =>
    rw [Timeline.take?, next] at taken
    cases taken
  | some p =>
    obtain ⟨⟨due, wakes⟩, others⟩ := p
    have perm := Timeline.perm_of_earliest? next
    have least := Timeline.due_le_of_earliest? next
    have isNext := perm.mem_iff.2 List.mem_cons_self
    have isOther : ∀ y ∈ others, y ∈ d.timeline.alarms := fun y mem =>
      perm.mem_iff.2 (List.mem_cons_of_mem _ mem)
    have isDue : due ≤ limit := by
      by_contra later
      rw [Timeline.take?, next] at taken
      dsimp only at taken
      rw [if_neg later] at taken
      cases taken
    obtain ⟨own, timer, rfl⟩ := quiet.windows _ isNext
    cases taken.symm.trans (Timeline.take?_of_earliest? next isDue (ahead _ isNext))
    exact ⟨due, own, timer, others, ahead _ isNext, isDue, fun y mem => least y (isOther y mem),
      rfl, ⟨quiet.callbacks, fun y mem => quiet.windows y (isOther y mem)⟩, rfl⟩

/-- An alarm of another handler goes off unnoticed. One of the handler goes off
on its own clock as well. -/
theorem Trails.fire {alarm : HandlerAlarm} {timeline : Timeline HandlerAlarm} {limit : Nat}
    (trails : d.Trails serial w) (taken : d.timeline.take? limit = some (alarm, timeline)) :
    ({ d with timeline }.fire alarm).Trails serial w ∨
      ∃ wakes timeline' calls, w.calls.timeline.take? limit = some (wakes, timeline') ∧
        calls = { w.calls with timeline := timeline' }.fire wakes ∧
        calls.timeline.alarms.length < w.calls.timeline.alarms.length ∧
        ({ d with timeline }.fire alarm).Trails serial { w with calls } := by
  obtain ⟨due, own, timer, others, le, isDue, least, next, quiet, fires⟩ :=
    trails.quiet.next trails.ahead taken
  rw [fires]
  obtain ⟨quiet', -, same⟩ := quiet.fire own timer
  have ahead : ∀ y ∈ ((d.movedTo due others).fire (.window own timer)).timeline.alarms,
      ((d.movedTo due others).fire (.window own timer)).now ≤ y.due := by
    rw [now, same]
    exact least
  have now : ((d.movedTo due others).fire (.window own timer)).now = due :=
    congrArg Timeline.now same
  obtain ⟨unseen, seen⟩ := Timeline.earliest?_filterMap (@due_of_window? serial) next
  have windows : d.timeline.alarms.filterMap (window? serial) = w.calls.timeline.alarms :=
    trails.follows.windows
  -- The alarm is the handler's own, and then it is the next one of its own clock too,
  -- or it is that of another handler.
  by_cases isOwn : own = serial
  · subst isOwn
    right
    have taken' : w.calls.timeline.take? limit =
        some (.window timer, ⟨due, others.filterMap (window? own)⟩) := by
      rw [windows] at seen
      exact Timeline.take?_of_earliest? (seen (if_pos rfl)) isDue (trails.clock.trans le)
    have moved : (d.movedTo due others).Follows own
        { w with calls := w.calls.movedTo due (others.filterMap (window? own)) } :=
      ⟨trails.follows.handler, rfl, trails.follows.heard, trails.follows.delivery⟩
    have follows := moved.fire_own quiet rfl timer
    refine ⟨_, _, _, taken', rfl, ?_, quiet', ahead, ?_, follows⟩
    · obtain ⟨_, -, perm, -, -⟩ := Timeline.take?_eq_some taken'
      rw [perm.length_eq, List.length_cons, Nat.lt_succ_iff]
      refine Nat.le_of_eq (congrArg List.length (follows.windows.symm.trans ?_))
      rw [Dispatcher.windows, same]
      rfl
    · rw [now]
      exact Nat.le_of_eq (Debounced.now_fire _ _)
  · left
    have moved : (d.movedTo due others).Follows serial w :=
      trails.follows.congr rfl ((unseen (if_neg isOwn)).trans rfl) rfl
    refine ⟨quiet', ahead, ?_, moved.fire_other quiet isOwn timer⟩
    rw [now]
    exact trails.clock.trans le

/-- No window of a handler ends before the alarms of its set do. -/
theorem Follows.later (follows : d.Follows serial w) {limit : Nat}
    (later : ∀ x ∈ d.timeline.alarms, limit < x.due) :
    ∀ x ∈ w.calls.timeline.alarms, limit < x.due := by
  rw [← follows.windows]
  intro x mem
  obtain ⟨y, isThere, own⟩ := List.mem_filterMap.1 mem
  rw [due_of_window? own]
  exact later y isThere

/-- While no alarm of the set is due, time passes for the handler alone. -/
theorem Trails.of_later (trails : d.Trails serial w) {limit : Nat}
    (later : ∀ x ∈ d.timeline.alarms, limit < x.due) (fuel : Nat) :
    d.Trails serial { w with calls := Debounced.fireUpTo limit fuel w.calls } := by
  rw [Debounced.fireUpTo_of_later (trails.follows.later later)]
  exact trails

/-- All alarms that are due go off in the set, and on the clock of a handler. -/
theorem Trails.fireUpTo {limit : Nat} (trails : d.Trails serial w) (fuel fuel' : Nat)
    (enough : d.work ≤ fuel) (enough' : w.calls.timeline.alarms.length ≤ fuel') :
    (fireUpTo limit fuel d).Trails serial
      { w with calls := Debounced.fireUpTo limit fuel' w.calls } := by
  induction fuel generalizing d w fuel' with
  | zero =>
    refine trails.of_later ?_ fuel'
    rw [alarms_of_work (Nat.le_zero.1 enough)]
    exact fun _ mem => absurd mem List.not_mem_nil
  | succ fuel ih =>
    unfold Dispatcher.fireUpTo
    split
    · rename_i alarm timeline taken
      have less := work_fire (Timeline.takeNext?_of_take? taken)
      rcases trails.fire taken with other | ⟨wakes, timeline', calls, taken', fires, fewer, own⟩
      · exact ih other fuel' (by omega) enough'
      · cases fuel' with
        | zero => omega
        | succ fuel' =>
          rw [Debounced.fireUpTo, taken']
          dsimp only
          rw [← fires]
          exact ih own fuel' (by omega) (by dsimp only; omega)
    · rename_i none_
      exact trails.of_later (Timeline.take?_eq_none none_) fuel'

/-- Alarms that go off leave the set and the reports alone. -/
theorem Quiet.fireUpTo {limit : Nat} (quiet : d.Quiet)
    (ahead : ∀ x ∈ d.timeline.alarms, d.now ≤ x.due) (le : d.now ≤ limit) (fuel : Nat) :
    (fireUpTo limit fuel d).Quiet ∧ d.Spares (fireUpTo limit fuel d) ∧
      (fireUpTo limit fuel d).now ≤ limit := by
  induction fuel generalizing d with
  | zero => exact ⟨quiet, .refl d, le⟩
  | succ fuel ih =>
    unfold Dispatcher.fireUpTo
    split
    · rename_i alarm timeline taken
      obtain ⟨due, own, timer, others, -, isDue, least, next, moved, fires⟩ :=
        quiet.next ahead taken
      have isOther : ∀ x ∈ others, x ∈ d.timeline.alarms := fun x mem =>
        (Timeline.perm_of_earliest? next).mem_iff.2 (List.mem_cons_of_mem _ mem)
      obtain ⟨quiet', spares, same⟩ := moved.fire own timer
      rw [fires]
      have now : ((d.movedTo due others).fire (.window own timer)).now = due :=
        congrArg Timeline.now same
      obtain ⟨quiet'', spares', le'⟩ := ih quiet' (by rw [now, same]; exact least) (by rwa [now])
      have movedSpares : d.Spares (d.movedTo due others) :=
        ⟨rfl, rfl, rfl, isOther, fun _ _ => rfl⟩
      exact ⟨quiet'', (movedSpares.trans spares).trans spares', le'⟩
    · exact ⟨quiet, .refl d, le⟩

/-- Time that passes leaves the set settled, and passes for a handler of the set
as it does on its own clock. -/
theorem Settled.advance (settled : d.Settled) (milliseconds : Nat) :
    (d.advance milliseconds).Settled ∧ ∀ a w, d.Attends a w →
      (d.advance milliseconds).Attends a (w.act (.advance milliseconds)) := by
  have ahead : ∀ x ∈ d.timeline.alarms, d.now ≤ x.due := fun x mem => (settled.rested x mem).le
  obtain ⟨quiet, spares, le⟩ :=
    settled.quiet.fireUpTo ahead (Timeline.le_target _ milliseconds) d.work
  have later : ∀ x ∈
      (Dispatcher.fireUpTo (d.timeline.target milliseconds) d.work d).timeline.alarms,
        d.timeline.target milliseconds < x.due := ahead_fireUpTo (Nat.le_refl d.work)
  have now : (d.advance milliseconds).now = d.timeline.target milliseconds := Nat.max_eq_right le
  refine ⟨⟨⟨quiet.callbacks, quiet.windows⟩, ?_, spares.reports.trans settled.calm, ?_, ?_⟩, ?_⟩
  · rw [now]
    exact later
  · show HandlerSet.Sound (Dispatcher.fireUpTo _ _ d).set
      (Dispatcher.fireUpTo _ _ d).handlers.length
    rw [spares.set, spares.count]
    exact settled.set
  · intro serial le
    have known : d.handlers.length ≤ serial := spares.count ▸ le
    obtain ⟨noWindow, nothing⟩ := settled.fresh serial known
    have none_ := List.filterMap_eq_nil_iff.1 noWindow
    exact ⟨List.filterMap_eq_nil_iff.2 fun x mem => none_ x (spares.alarms x mem),
      (spares.heard serial known).trans nothing⟩
  · intro a w attends
    -- Both clocks stand at the same time, and both run to the same target.
    have trails : d.Trails a.serial w :=
      ⟨settled.quiet, ahead, Nat.le_of_eq attends.clock, attends.follows⟩
    have target : w.calls.timeline.target milliseconds = d.timeline.target milliseconds :=
      congrArg (· + _) attends.clock
    have trails' : (Dispatcher.fireUpTo (d.timeline.target milliseconds) d.work d).Trails a.serial
        { w with
          calls := Debounced.fireUpTo (d.timeline.target milliseconds) w.calls.work w.calls } :=
      trails.fireUpTo d.work w.calls.work (Nat.le_refl _) w.calls.length_le_work
    have advanced : w.act (.advance milliseconds) = Watch.advance w milliseconds := rfl
    rw [advanced, Watch.advance, Debounced.advance, target]
    refine ⟨?_, ?_, ?_⟩
    · show a ∈ (Dispatcher.fireUpTo _ _ d).set.attachments
      rw [spares.set]
      exact attends.within
    · rw [now]
      exact Nat.max_eq_right (trails'.clock.trans le)
    · have follows := trails'.follows
      exact ⟨follows.handler, follows.windows, follows.heard, follows.delivery⟩

end Dispatcher

end HubAutomation
