import HubAutomation.Proofs.Trigger.SoundStages
import HubAutomation.Automations

/-!
# What a dispatch counts

A dispatch evaluates each handler that was in the set when it began. Its report
has failed as many of them as have rules that contradict each other on the
event. That depends on the rules alone, which stay as they are whatever the
callbacks do: a callback that takes time, fails, panics or takes a handler out
does not change the count.

- `BegunDispatch`: an event, and the handlers that are shown it.
- `BegunDispatch.failures`: how many of them have rules that contradict.
- `Dispatcher.Persists`: what alarms and turns leave alone.
- `Dispatcher.Rests`, `Dispatcher.Evaluates`: no dispatch of the run is under
  way, or there is one, and its report counts right.
-/

namespace HubAutomation

/-- A dispatch as it begins. -/
structure BegunDispatch where
  event : Event StateChange
  /-- The handlers of the set. -/
  shown : List Attachment

/-- Whether the rules of a handler contradict each other on an event. -/
def contradicts (handlers : List TriggerHandler) (event : Event StateChange) (a : Attachment) :
    Bool :=
  handlers[a.serial]?.any fun h => h.rules.judge h.timeout event.data = .contradiction

/-- The number of evaluations that fail. -/
def BegunDispatch.failures (handlers : List TriggerHandler) (b : BegunDispatch) : Nat :=
  b.shown.countP (contradicts handlers b.event)

/-- A payload that is taken leaves the window of a debouncer as long as it was. -/
theorem Debouncer.timeout_wake {α : Type} {b b' : Debouncer α} {timer : Nat} {payload : α}
    (woken : b.wake timer = some (payload, b')) : b'.timeout = b.timeout := by
  unfold wake collect at woken
  split at woken
  · split at woken
    · split at woken
      · cases woken
        rfl
      · cases woken
    · cases woken
  · cases woken

namespace TriggerHandler

variable {h : TriggerHandler}

/-- What the judgement of a handler depends on. -/
def ruling (h : TriggerHandler) : RuleSet × Nat := (h.rules, h.timeout)

/-- A cancellation does not change the rules of a handler. -/
theorem ruling_cancel (h : TriggerHandler) : h.cancel.2.ruling = h.ruling :=
  congrArg (h.rules, ·) (Debouncer.timeout_cancel h.debouncer)

/-- An event does not change the rules of a handler. -/
theorem ruling_meet (h : TriggerHandler) (now : Nat) (event : Event StateChange) :
    (h.meet now event).handler.ruling = h.ruling := by
  unfold meet
  split
  · rfl
  · rfl
  · exact h.ruling_cancel
  · exact congrArg (h.rules, ·) ((Debouncer.timeout_call _ now event).trans
      (Debouncer.timeout_cancel h.debouncer))

/-- A handler fails on an event that its rules contradict each other on. -/
theorem failed_meet_iff (h : TriggerHandler) (now : Nat) (event : Event StateChange) :
    (h.meet now event).failed = decide (h.rules.judge h.timeout event.data = .contradiction) := by
  unfold meet
  cases h.rules.judge h.timeout event.data <;> rfl

end TriggerHandler

/-- Only what a judgement depends on counts. -/
theorem contradicts_eq_any (handlers : List TriggerHandler) (event : Event StateChange)
    (a : Attachment) : contradicts handlers event a =
      (handlers.map TriggerHandler.ruling)[a.serial]?.any fun r =>
        r.1.judge r.2 event.data = .contradiction := by
  rw [List.getElem?_map]
  unfold contradicts
  cases handlers[a.serial]? <;> rfl

/-- Which handlers contradict themselves depends on their rules alone. -/
theorem contradicts_congr {handlers handlers' : List TriggerHandler}
    (same : handlers'.map TriggerHandler.ruling = handlers.map TriggerHandler.ruling) :
    contradicts handlers' = contradicts handlers := by
  funext event a
  rw [contradicts_eq_any, contradicts_eq_any, same]

namespace Dispatcher

variable {d d' d'' : Dispatcher} {a : Attachment} {h : TriggerHandler} {serial : Nat}
  {event : Event StateChange} {marks : List Mark} {s t : Stage}

/-! ### What stays -/

/-- Rules stay as they are, and handlers only leave the set. -/
structure Persists (d d' : Dispatcher) : Prop where
  rulings : d'.handlers.map TriggerHandler.ruling = d.handlers.map TriggerHandler.ruling
  size : d'.set.size ≤ d.set.size

theorem Persists.refl (d : Dispatcher) : d.Persists d := ⟨rfl, Nat.le_refl _⟩

theorem Persists.trans (first : d.Persists d') (second : d'.Persists d'') : d.Persists d'' :=
  ⟨second.rulings.trans first.rulings, second.size.trans first.size⟩

/-- A handler may be changed in any way that leaves its rules alone. -/
theorem persists_modify {f : TriggerHandler → TriggerHandler}
    (keeps : ∀ {h}, d.handlers[serial]? = some h → (f h).ruling = h.ruling) :
    d.Persists (d.modify serial f) := by
  refine ⟨List.ext_getElem? fun i => ?_, Nat.le_refl _⟩
  rw [List.getElem?_map, List.getElem?_map, getElem?_modify]
  split
  · rename_i same
    subst same
    cases at_ : d.handlers[serial]? with
    | none => rfl
    | some h => exact congrArg some (keeps at_)
  · rfl

theorem persists_cancel (d : Dispatcher) (serial : Nat) : d.Persists (d.cancel serial) :=
  persists_modify fun {h} _ => h.ruling_cancel

/-- Who is taken out of the set keeps its rules. -/
theorem persists_detach (d : Dispatcher) (id : Nat) : d.Persists (d.detach id) := by
  unfold detach
  split
  · have taken : d.Persists { d with set := d.set.detach id } :=
      ⟨rfl, List.length_filter_le _ _⟩
    exact taken.trans (persists_cancel _ _)
  · exact .refl d

theorem persists_release (d : Dispatcher) (a : Attachment) : d.Persists (d.release a) := by
  unfold release
  split
  · exact .refl d
  · exact persists_cancel d _

/-- A callback that begins changes no rules. -/
theorem persists_start (d : Dispatcher) (serial : Nat) (callback : Callback)
    (event : Event StateChange) : d.Persists (d.start serial callback event) := by
  have seen : d.Persists (d.see serial (callback.delivery.start d.now event)) :=
    ⟨rfl, Nat.le_refl _⟩
  unfold start
  dsimp only
  split
  · exact seen.trans (persists_detach _ _)
  · exact seen

theorem persists_met (at_ : d.handlers[a.serial]? = some h) (event : Event StateChange) :
    d.Persists (d.met a h event) := by
  refine persists_modify fun {h'} at' => ?_
  obtain rfl : h = h' := Option.some.inj (at_.symm.trans at')
  exact h.ruling_meet d.now event

/-- A timer that wakes up changes no rules. -/
theorem persists_wake {timer : Nat} {debouncer : Debouncer (Event StateChange)}
    (at_ : d.handlers[serial]? = some h)
    (woken : h.debouncer.wake timer = some (event, debouncer)) :
    d.Persists (d.modify serial fun h => { h with debouncer }) := by
  refine persists_modify fun {h'} at' => ?_
  obtain rfl : h = h' := Option.some.inj (at_.symm.trans at')
  exact congrArg (h.rules, ·) (Debouncer.timeout_wake woken)

theorem persists_deliver (d : Dispatcher) (serial timer : Nat) (callback : Callback)
    (event : Event StateChange) : d.Persists (d.deliver serial timer callback event) := by
  have starts := persists_start d serial callback event
  unfold deliver
  dsimp only
  split
  · exact starts.trans ⟨rfl, Nat.le_refl _⟩
  · exact starts

/-- A turn of a dispatch changes no rules. -/
theorem Turn.persists {r : Running} {rest : List Attachment} (turn : Turn d r a rest marks t) :
    d.Persists t.dispatcher := by
  cases turn with
  | missing => exact .refl d
  | quiet at_ effect => exact (persists_met at_ r.event).trans (persists_release _ a)
  | @opens h due timer at_ effect =>
    have armed : (d.met a h r.event).Persists
        ((d.met a h r.event).arm due (.window a.serial timer)) := ⟨rfl, Nat.le_refl _⟩
    exact ((persists_met at_ r.event).trans armed).trans (persists_release _ a)
  | calls at_ effect atOnce =>
    exact ((persists_met at_ r.event).trans (persists_start _ _ _ _)).trans (persists_release _ a)
  | holdsUp at_ effect wakes =>
    exact ((persists_met at_ r.event).trans (persists_start _ _ _ _)).trans ⟨rfl, Nat.le_refl _⟩

/-- A dispatch changes no rules. -/
theorem persists_proceed (owner : DispatchOwner) (event : Event StateChange)
    (as : List Attachment) (report : DispatchReport) (d : Dispatcher) :
    d.Persists (proceed owner event as report d) :=
  proceed_induction (P := fun s => d.Persists s.dispatcher)
    (fun _ turn persists => persists.trans turn.persists)
    (fun _ persists => persists.trans ⟨rfl, Nat.le_refl _⟩) (.refl d)

/-- An alarm changes no rules. -/
theorem persists_fire (d : Dispatcher) (alarm : HandlerAlarm) : d.Persists (d.fire alarm) := by
  cases alarm with
  | window serial timer =>
    unfold fire
    dsimp only
    split
    · exact .refl d
    · rename_i h at_
      split
      · rename_i event debouncer woken
        exact (persists_wake at_ woken).trans (persists_deliver _ _ _ _ _)
      · exact .refl d
  | delivery serial timer callback event =>
    unfold fire
    dsimp only
    split
    · exact ⟨rfl, Nat.le_refl _⟩
    · exact .refl d
  | turn callback x =>
    have finished : d.Persists (d.finish x.current.serial callback x.event) :=
      ⟨rfl, Nat.le_refl _⟩
    exact (finished.trans (persists_release _ _)).trans (persists_proceed _ _ _ _ _)

/-! ### What is counted -/

/-- No dispatch of the run is under way, nor is one to be collected. -/
structure Rests (d : Dispatcher) : Prop where
  nothing : d.underWay = []
  taken : ∀ r ∈ d.reports, r.1 ≠ .run

/-- A dispatch of the run is under way, or its report is there. So far it has
failed the handlers among those that were shown the event whose rules contradict
each other. -/
inductive Evaluates (handlers : List TriggerHandler) (b : BegunDispatch) (d : Dispatcher) : Prop
  | underWay {x : Dispatch} {done : List Attachment} (one : d.underWay = [x])
    (owner : x.owner = .run) (event : x.event = b.event) (noReport : ∀ r ∈ d.reports, r.1 ≠ .run)
    (shown : b.shown = done ++ x.rest)
    (failed : x.report.failed.length = done.countP (contradicts handlers b.event))
  | done {report : DispatchReport} (nothing : d.underWay = [])
    (only : ∀ r ∈ d.reports, r.1 = .run → r.2 = report)
    (isThere : (.run, report) ∈ d.reports) (failed : report.failed.length = b.failures handlers)

/-- The same in the middle of a dispatch. -/
def Stage.Evaluates (handlers : List TriggerHandler) (b : BegunDispatch) (s : Stage) : Prop :=
  s.dispatcher.handlers.map TriggerHandler.ruling = handlers.map TriggerHandler.ruling ∧
  match s.running with
  | some r => s.dispatcher.Rests ∧ r.owner = .run ∧ r.event = b.event ∧
      ∃ done, b.shown = done ++ r.rest ∧
        r.report.failed.length = done.countP (contradicts handlers b.event)
  | none => s.dispatcher.Evaluates handlers b

/-- Whether a dispatcher rests depends on its alarms and reports. -/
theorem Rests.congr (rests : d.Rests) (same : d'.underWay = d.underWay)
    (reports : d'.reports = d.reports) : d'.Rests :=
  ⟨same.trans rests.nothing, reports ▸ rests.taken⟩

/-- A new dispatcher rests. -/
theorem rests_new (now : Nat) : (new now).Rests := ⟨rfl, fun _ mem => absurd mem List.not_mem_nil⟩

theorem Rests.attach (rests : d.Rests) (h : TriggerHandler) : (d.attach h).Rests :=
  rests.congr rfl rfl

/-- To take a handler out begins no dispatch. -/
theorem Rests.detach (rests : d.Rests) (id : Nat) : (d.detach id).Rests :=
  rests.congr (underWay_congr (timeline_detach _ _)) (reports_detach _ _)

/-- Automations that are taken out and put in stay at rest. -/
theorem Rests.remove {automations : Automations} (rests : automations.dispatcher.Rests)
    (key : String) : (automations.remove key).dispatcher.Rests := by
  unfold Automations.remove
  split
  · exact rests.detach _
  · exact rests

/-- To put a handler under a key begins no dispatch. -/
theorem Rests.put {automations : Automations} (rests : automations.dispatcher.Rests) (key : String)
    (h : TriggerHandler) : (automations.put key h).dispatcher.Rests :=
  (rests.remove key).attach h

/-- A report names one handler more if it failed. -/
theorem length_failed_add (report : DispatchReport) (id : Nat) (failed : Bool) :
    (report.add id failed).failed.length = report.failed.length + if failed then 1 else 0 := by
  unfold DispatchReport.add
  split
  · simp
  · rfl

variable {handlers : List TriggerHandler} {b : BegunDispatch}

/-- A turn counts a handler whose rules contradict each other. -/
theorem Turn.evaluates {r : Running} {rest : List Attachment}
    (turn : Turn d r a rest marks t) (first : r.rest = a :: rest)
    (evaluates : Stage.Evaluates handlers b ⟨d, some r⟩) : Stage.Evaluates handlers b t := by
  obtain ⟨same, rests, owner, event, done, shown, failed⟩ := evaluates
  have rulings := turn.persists.rulings.trans same
  have shown' : b.shown = (done ++ [a]) ++ rest := by
    rw [shown, first, List.append_assoc]
    rfl
  -- The report counts the handler if it contradicts itself, which depends on its rules
  -- alone; they are those from before the dispatch.
  have counted (h : TriggerHandler) (at_ : d.handlers[a.serial]? = some h) :
      (r.report.add a.id (h.meet d.now r.event).failed).failed.length =
        (done ++ [a]).countP (contradicts handlers b.event) := by
    rw [length_failed_add, failed, List.countP_append, h.failed_meet_iff, event]
    have own : contradicts handlers b.event a =
        decide (h.rules.judge h.timeout b.event.data = .contradiction) := by
      rw [← contradicts_congr same, contradicts, at_]
      rfl
    rw [List.countP_singleton, own]
  cases turn with
  | missing missing =>
    refine ⟨rulings, rests, owner, event, done ++ [a], shown', ?_⟩
    have none_ : contradicts handlers b.event a = false := by
      rw [← contradicts_congr same, contradicts, missing]
      rfl
    rw [List.countP_append, List.countP_singleton, none_]
    exact failed
  | @quiet h at_ effect =>
    refine ⟨rulings, rests.congr ?_ ?_, owner, event, done ++ [a], shown', counted h at_⟩
    · exact underWay_congr (by simp [met])
    · simp [met]
  | @opens h due timer at_ effect =>
    refine ⟨rulings, rests.congr ?_ ?_, owner, event, done ++ [a], shown', counted h at_⟩
    · rw [underWay_congr (timeline_release _ a), underWay_arm]
      exact List.append_nil _
    · rw [reports_release]
      rfl
  | @calls h at_ effect atOnce =>
    refine ⟨rulings, rests.congr ?_ ?_, owner, event, done ++ [a], shown', counted h at_⟩
    · exact underWay_congr (by simp [met])
    · simp [met]
  | @holdsUp h due at_ effect wakes =>
    have sameWay : ((d.met a h r.event).start a.serial h.callback r.event).underWay = d.underWay :=
      underWay_congr (by simp [met])
    have reports : ((d.met a h r.event).start a.serial h.callback r.event).reports = d.reports :=
      reports_start _ _ _ _
    have one : (((d.met a h r.event).start a.serial h.callback r.event).arm due (.turn h.callback
        ⟨r.owner, r.event, a, rest, r.report.add a.id (h.meet d.now r.event).failed⟩)).underWay =
        [⟨r.owner, r.event, a, rest, r.report.add a.id (h.meet d.now r.event).failed⟩] := by
      rw [underWay_arm, sameWay, rests.nothing]
      rfl
    refine ⟨rulings, .underWay one owner event ?_ shown' (counted h at_)⟩
    show ∀ x ∈ ((d.met a h r.event).start a.serial h.callback r.event).reports, _
    rw [reports]
    exact rests.taken

/-- A dispatch that goes on is held up again, or has counted all handlers. -/
theorem Rests.evaluates_proceed (rests : d.Rests)
    (same : d.handlers.map TriggerHandler.ruling = handlers.map TriggerHandler.ruling)
    {as done : List Attachment} {report : DispatchReport} (shown : b.shown = done ++ as)
    (failed : report.failed.length = done.countP (contradicts handlers b.event)) :
    (proceed .run b.event as report d).Evaluates handlers b := by
  have evaluates : Stage.Evaluates handlers b ⟨d, some ⟨.run, b.event, as, report⟩⟩ :=
    ⟨same, rests, rfl, rfl, done, shown, failed⟩
  refine (proceed_induction (P := Stage.Evaluates handlers b)
    (fun first turn evaluates => turn.evaluates first evaluates) ?_ evaluates).2
  rintro d r through ⟨same, rests, owner, event, done, shown, failed⟩
  rw [through, List.append_nil] at shown
  have counted : r.report.failed.length = b.failures handlers := by
    rw [failed, BegunDispatch.failures, shown]
  refine ⟨same, .done rests.nothing ?_ ?_ counted⟩
  · intro x mem isRun
    rcases List.mem_append.1 mem with old | new
    · exact absurd isRun (rests.taken x old)
    · exact congrArg Prod.snd (List.mem_singleton.1 new)
  · exact List.mem_append_right _ (List.mem_singleton.2 (by rw [owner]))

/-- A dispatch begins. -/
theorem Rests.evaluates_begin (rests : d.Rests)
    (same : d.handlers.map TriggerHandler.ruling = handlers.map TriggerHandler.ruling)
    (event : Event StateChange) :
    (d.begin .run event).Evaluates handlers ⟨event, d.set.attachments⟩ :=
  rests.evaluates_proceed (b := ⟨event, d.set.attachments⟩) same (List.nil_append _).symm rfl

/-- Alarms that go off between dispatches begin none. -/
theorem Rests.fire {alarm : HandlerAlarm} {timeline : Timeline HandlerAlarm} (rests : d.Rests)
    (next : d.timeline.takeNext? = some (alarm, timeline)) :
    ({ d with timeline }.fire alarm).Rests := by
  have perm := underWay_next next
  rw [rests.nothing] at perm
  obtain ⟨notTurn, nothing⟩ := List.append_eq_nil_iff.1 perm.symm.eq_nil
  obtain ⟨same, reports⟩ := fire_leaves (Option.toList_eq_nil_iff.1 notTurn) { d with timeline }
  exact rests.congr ((same.trans nothing).trans rests.nothing.symm) reports

/-- An alarm that goes off during a dispatch leaves it alone, or lets it go on. -/
theorem Evaluates.fire {alarm : HandlerAlarm} {timeline : Timeline HandlerAlarm}
    (evaluates : d.Evaluates handlers b)
    (same : d.handlers.map TriggerHandler.ruling = handlers.map TriggerHandler.ruling)
    (next : d.timeline.takeNext? = some (alarm, timeline)) :
    ({ d with timeline }.fire alarm).Evaluates handlers b := by
  have perm := underWay_next next
  -- The alarm belongs to the dispatch that is counted, or to none: there is only one.
  cases evaluates with
  | done nothing only isThere failed =>
    rw [nothing] at perm
    obtain ⟨notTurn, rest⟩ := List.append_eq_nil_iff.1 perm.symm.eq_nil
    obtain ⟨sameWay, reports⟩ :=
      fire_leaves (Option.toList_eq_nil_iff.1 notTurn) { d with timeline }
    refine .done (sameWay.trans rest) ?_ ?_ failed
    · rw [reports]
      exact only
    · rw [reports]
      exact isThere
  | @underWay x done one owner event noReport shown failed =>
    rw [one] at perm
    cases isTurn : alarm.dispatch? with
    | none =>
      obtain ⟨sameWay, reports⟩ := fire_leaves isTurn { d with timeline }
      rw [isTurn] at perm
      refine .underWay (sameWay.trans perm.symm.eq_singleton) owner event ?_ shown failed
      rw [reports]
      exact noReport
    | some y =>
      rw [isTurn] at perm
      have both : y :: { d with timeline }.underWay = [x] := perm.symm.eq_singleton
      obtain ⟨rfl, nothing⟩ := List.cons.inj both
      cases alarm with
      | window | delivery => cases isTurn
      | turn callback z =>
        obtain rfl : z = y := Option.some.inj isTurn
        -- While the dispatch goes on, nothing else is under way.
        have rests : (({ d with timeline }.finish z.current.serial callback z.event).release
            z.current).Rests := by
          refine ⟨?_, ?_⟩
          · rw [underWay_congr (timeline_release _ _)]
            exact nothing
          · rw [reports_release]
            exact noReport
        have rulings := (persists_release
          ({ d with timeline }.finish z.current.serial callback z.event) z.current).rulings
        show (proceed z.owner z.event z.rest z.report _).Evaluates handlers b
        rw [event] at rests rulings ⊢
        rw [owner]
        exact rests.evaluates_proceed (rulings.trans same) shown failed

/-- The report of the dispatch counts the evaluations that fail. -/
theorem Evaluates.collect {report : DispatchReport} (evaluates : d.Evaluates handlers b)
    (taken : d.takeReport? .run = some (report, d')) :
    d'.Rests ∧ report.failed.length = b.failures handlers := by
  have isThere : d.takeReport? .run ≠ none := taken ▸ Option.some_ne_none _
  cases evaluates with
  | underWay one owner event noReport => exact absurd (takeReport?_eq_none.2 noReport) isThere
  | done nothing only there failed =>
    obtain ⟨r, found, e⟩ := Option.map_eq_some_iff.1 taken
    cases e
    have isRun : r.1 = .run := by simpa using List.find?_some found
    refine ⟨⟨nothing, fun x mem => by simpa using (List.mem_filter.1 mem).2⟩, ?_⟩
    rw [only r (List.mem_of_find?_eq_some found) isRun, failed]

/-- What a dispatch evaluates depends on alarms and reports. -/
theorem Evaluates.congr (evaluates : d.Evaluates handlers b) (same : d'.underWay = d.underWay)
    (reports : d'.reports = d.reports) : d'.Evaluates handlers b := by
  cases evaluates with
  | underWay one owner event noReport shown failed =>
    exact .underWay (same.trans one) owner event (reports ▸ noReport) shown failed
  | done nothing only isThere failed =>
    exact .done (same.trans nothing) (reports ▸ only) (reports ▸ isThere) failed

/-- Where no callback holds the dispatch up, its report is there. -/
theorem Evaluates.report (evaluates : d.Evaluates handlers b) (nothing : d.underWay = []) :
    ∃ report d', d.takeReport? .run = some (report, d') := by
  cases evaluates with
  | underWay one => cases nothing.symm.trans one
  | done _ only isThere failed =>
    cases taken : d.takeReport? .run with
    | none => exact absurd rfl (takeReport?_eq_none.1 taken _ isThere)
    | some p => exact ⟨p.1, p.2, rfl⟩

end Dispatcher

end HubAutomation
