import HubAutomation.Proofs.Trigger.Detaching
import HubAutomation.Proofs.Runner.Evaluations
import HubAutomation.Proofs.Trigger.Ledgers
import Mathlib.Data.List.Induction

/-!
# Handlers in their order

Whatever is done with a set, in the middle of a dispatch too, the set holds the
handlers that were attached and not yet detached, in the order in which they
were attached. A dispatch evaluates those that are there when it begins, each
once and in this order, and reports those whose rules contradict each other.

- `Dispatcher.Move`: the steps of a set that callbacks and others may change at
  any time.
- `reportOn`: the report on some handlers.
- `Recorded`: a stage is as it is written down.
- `Dispatcher.handlers_in_order`: order, evaluations and reports of all runs.
-/

namespace HubAutomation

/-! ### Reports -/

/-- An event qualifies to a handler. -/
def TriggerHandler.qualifies (h : TriggerHandler) (event : Event StateChange) : Bool :=
  h.rules.allCall event.data

/-- An event cancels a handler's call, if it has a window to wait in. -/
def TriggerHandler.cancels (h : TriggerHandler) (event : Event StateChange) : Bool :=
  h.timeout ≠ 0 && h.rules.allCancel event.data

/-- An event both qualifies to the handler of a place and cancels it. -/
def fails (handlers : List TriggerHandler) (event : Event StateChange) (a : Attachment) : Bool :=
  handlers[a.serial]?.any fun h => h.qualifies event && h.cancels event

/-- A handler contradicts itself if an event qualifies to it and cancels its call as
well. -/
theorem contradicts_eq_fails : contradicts = fails := by
  funext handlers event a
  unfold contradicts fails
  congr 1
  funext h
  unfold RuleSet.judge TriggerHandler.qualifies TriggerHandler.cancels
  cases h.rules.allCall event.data <;>
    cases decide (h.timeout ≠ 0) && h.rules.allCancel event.data <;> rfl

/-- The report on handlers that are evaluated one after another. -/
def reportOn (handlers : List TriggerHandler) (event : Event StateChange) (as : List Attachment) :
    DispatchReport :=
  as.foldl (fun report a => report.add a.id (contradicts handlers event a)) .empty

section
variable {handlers handlers' : List TriggerHandler} {event : Event StateChange}
  {as : List Attachment} {a : Attachment}

/-- One handler more is counted at the end of a report. -/
theorem reportOn_concat (handlers : List TriggerHandler) (event : Event StateChange)
    (as : List Attachment) (a : Attachment) : reportOn handlers event (as ++ [a]) =
      (reportOn handlers event as).add a.id (contradicts handlers event a) := List.foldl_append

/-- A report counts some handlers, and names, in order, those to which the event
qualifies and which it cancels. -/
def DispatchReport.IsOn (report : DispatchReport) (handlers : List TriggerHandler)
    (event : Event StateChange) (as : List Attachment) : Prop :=
  report.handled + report.failed.length = as.length ∧
    report.failed = (as.filter (fails handlers event)).map Attachment.id

/-- What is counted handler by handler is what the report says. -/
theorem reportOn_isOn (handlers : List TriggerHandler) (event : Event StateChange)
    (as : List Attachment) : (reportOn handlers event as).IsOn handlers event as := by
  -- From the end, as reports are added to there.
  induction as using List.reverseRecOn with
  | nil => exact ⟨rfl, rfl⟩
  | append_singleton as a ih =>
    obtain ⟨number, failed⟩ := ih
    unfold DispatchReport.IsOn
    rw [reportOn_concat, contradicts_eq_fails, List.filter_append, List.map_append, ← failed,
      List.length_append]
    unfold DispatchReport.add
    cases both : fails handlers event a with
    | true =>
      rw [List.filter_cons_of_pos both]
      refine ⟨?_, rfl⟩
      show (reportOn handlers event as).handled +
        ((reportOn handlers event as).failed ++ [a.id]).length = as.length + 1
      rw [List.length_append, ← Nat.add_assoc, number]
      rfl
    | false =>
      rw [List.filter_cons_of_neg (Bool.eq_false_iff.1 both)]
      refine ⟨?_, (List.append_nil _).symm⟩
      show (reportOn handlers event as).handled + 1 + (reportOn handlers event as).failed.length =
        as.length + 1
      omega

/-- The rules of the handlers that there were stay as they were. -/
def Grows (handlers handlers' : List TriggerHandler) : Prop :=
  handlers.map TriggerHandler.ruling <+: handlers'.map TriggerHandler.ruling

/-- Handlers that are added do not change what one of the old ones makes of an
event. -/
theorem Grows.contradicts (grows : Grows handlers handlers') (known : a.serial < handlers.length)
    (event : Event StateChange) : contradicts handlers' event a = contradicts handlers event a := by
  obtain ⟨extra, grown⟩ := grows
  rw [contradicts_eq_any, contradicts_eq_any, ← grown,
    List.getElem?_append_left (by rwa [List.length_map])]

/-- Nor do they change a report on the old ones. -/
theorem Grows.reportOn (grows : Grows handlers handlers')
    (known : ∀ a ∈ as, a.serial < handlers.length) (event : Event StateChange) :
    reportOn handlers' event as = reportOn handlers event as := by
  induction as using List.reverseRecOn with
  | nil => rfl
  | append_singleton as a ih =>
    obtain ⟨front, last⟩ := List.forall_mem_append.1 known
    rw [reportOn_concat, reportOn_concat, ih front,
      grows.contradicts (last a List.mem_cons_self)]

theorem Grows.refl (handlers : List TriggerHandler) : Grows handlers handlers := List.prefix_rfl

/-- No handler gets lost. -/
theorem Grows.length_le (grows : Grows handlers handlers') : handlers.length ≤ handlers'.length := by
  have le := List.IsPrefix.length_le grows
  rwa [List.length_map, List.length_map] at le

theorem Grows.trans {handlers'' : List TriggerHandler} (first : Grows handlers handlers')
    (second : Grows handlers' handlers'') : Grows handlers handlers'' :=
  List.IsPrefix.trans first second

/-- Handlers are added at the end. -/
theorem grows_append (handlers extra : List TriggerHandler) : Grows handlers (handlers ++ extra) := by
  unfold Grows
  rw [List.map_append]
  exact List.prefix_append _ _

end

/-- Whatever a dispatcher does, its handlers are still there, with the same rules. -/
theorem Dispatcher.Persists.grows {d d' : Dispatcher} (persists : d.Persists d') :
    Grows d.handlers d'.handlers := by
  exact ⟨[], (List.append_nil _).trans persists.rulings.symm⟩

/-! ### Moves -/

/-- The id that a callback takes out when it begins. -/
def Mark.detaches? : Mark → Option Nat
  | .begun _ _ callback _ _ => callback.detaches?
  | _ => none

/-- The id that is taken out by the callback that begins in a step. -/
def detachedIn (marks : List Mark) : Option Nat := marks.findSome? Mark.detaches?

namespace Dispatcher

variable {d d' : Dispatcher} {s t : Stage} {marks : List Mark} {a : Attachment}
  {rest : List Attachment} {r : Running} {deeds : List Deed}

/-- What is heard of the callback that begins in a step. -/
def callbackDeeds (d : Dispatcher) (marks : List Mark) : List Deed :=
  (detachedIn marks).toList.flatMap d.set.detachDeeds

/-- Somebody changes the set. -/
inductive Change (d : Dispatcher) : List Deed → Dispatcher → Prop where
  | attach (h : TriggerHandler) :
      Change d [.attached ⟨d.set.lastId + 1, d.handlers.length⟩] (d.attach h)
  | detach (id : Nat) : Change d (d.set.detachDeeds id) (d.detach id)
  | replace (id : Nat) (h : TriggerHandler) :
      Change d (d.set.replaceDeeds id d.handlers.length) (d.replace id h)

/-- The steps of a set that may be changed at any time, by callbacks too, and
what is heard of them. -/
inductive Move : Stage → List Deed → Stage → Prop where
  | change {d d' : Dispatcher} {deeds : List Deed} (running : Option Running)
      (change : Change d deeds d') : Move ⟨d, running⟩ deeds ⟨d', running⟩
  | begin {d : Dispatcher} (owner : DispatchOwner) (event : Event StateChange)
      (idle : d.underWay = []) :
      Move ⟨d, none⟩ [.begun event] ⟨d, some ⟨owner, event, d.set.attachments, .empty⟩⟩
  | turn {d : Dispatcher} {r : Running} {a : Attachment} {rest : List Attachment}
      {marks : List Mark} {s : Stage} (first : r.rest = a :: rest)
      (turn : Turn d r a rest marks s) : Move ⟨d, some r⟩ (.evaluated a :: d.callbackDeeds marks) s
  | closes {d : Dispatcher} {r : Running} (done : r.rest = []) :
      Move ⟨d, some r⟩ [.closed r.report]
        ⟨{ d with reports := d.reports ++ [(r.owner, r.report)] }, none⟩
  | ring {d : Dispatcher} {alarm : HandlerAlarm} {timeline : Timeline HandlerAlarm}
      {marks : List Mark} {s : Stage} (next : d.timeline.takeNext? = some (alarm, timeline))
      (ring : Ring { d with timeline } alarm marks s) : Move ⟨d, none⟩ (d.callbackDeeds marks) s
  | collect {d d' : Dispatcher} {owner : DispatchOwner} {report : DispatchReport}
      (taken : d.takeReport? owner = some (report, d')) : Move ⟨d, none⟩ [] ⟨d', none⟩
  | wait {d : Dispatcher} (limit : Nat) (ahead : ∀ a ∈ d.timeline.alarms, limit ≤ a.due) :
      Move ⟨d, none⟩ [] ⟨{ d with timeline := d.timeline.moveTo limit }, none⟩

/-- One move after another, and all that is heard of them. -/
inductive Moves (s : Stage) : List Deed → Stage → Prop where
  | nil : Moves s [] s
  | snoc {t u : Stage} {deeds more : List Deed} (moves : Moves s deeds t) (move : Move t more u) :
      Moves s (deeds ++ more) u

/-- Every step is a move, if only of what is heard of it. -/
theorem Step.move (step : Step s marks t) : ∃ deeds, Move s deeds t := by
  cases step with
  | attach rules timeout callback => exact ⟨_, .change none (.attach _)⟩
  | detach id => exact ⟨_, .change none (.detach id)⟩
  | replace id rules timeout callback => exact ⟨_, .change none (.replace id _)⟩
  | begin owner event idle => exact ⟨_, .begin owner event idle⟩
  | collect taken => exact ⟨_, .collect taken⟩
  | wait limit ahead => exact ⟨_, .wait limit ahead⟩
  | ring next ring => exact ⟨_, .ring next ring⟩
  | turn first turn => exact ⟨_, .turn first turn⟩
  | closes done => exact ⟨_, .closes done⟩

/-- Every run consists of moves. -/
theorem Run.moves (run : Run s marks t) : ∃ deeds, Moves s deeds t := by
  induction run with
  | nil => exact ⟨_, .nil⟩
  | snoc run step ih =>
    obtain ⟨deeds, moves⟩ := ih
    obtain ⟨more, move⟩ := step.move
    exact ⟨_, moves.snoc move⟩

/-- Who changes the set keeps it sound, and sets no alarm. -/
theorem Change.keeps (change : Change d deeds d') : d.Keeps d' ∧ d'.timeline = d.timeline := by
  cases change with
  | attach h => exact ⟨keeps_attach d h, rfl⟩
  | detach id => exact ⟨keeps_detach d id, timeline_detach _ _⟩
  | replace id h => exact ⟨keeps_replace d id h, timeline_replace _ _ _⟩

/-- A move leads from sound stages to sound stages. -/
theorem Move.sound (move : Move s deeds t) (sound : Sound s) : Sound t := by
  cases move with
  | change running change =>
    obtain ⟨keeps, timeline⟩ := change.keeps
    exact sound.keep keeps timeline sound.one
  | begin owner event idle => exact (Step.begin owner event idle).sound sound
  | turn first turn => exact turn.sound sound
  | closes done => exact (Step.closes done).sound sound
  | ring next ring => exact (Step.ring next ring).sound sound
  | collect taken => exact (Step.collect taken).sound sound
  | wait limit ahead => exact (Step.wait limit ahead).sound sound

/-! ### The handlers stay as they are -/

/-- Who changes the set loses no handler. -/
theorem Change.grows (change : Change d deeds d') : Grows d.handlers d'.handlers := by
  cases change with
  | attach h => exact grows_append _ _
  | detach id => exact (persists_detach d id).grows
  | replace id h =>
    unfold Dispatcher.replace
    split
    · rename_i a found
      have added : Grows d.handlers (d.handlers ++ [h]) := grows_append _ _
      exact added.trans (persists_cancel
        { d with handlers := d.handlers ++ [h], set := d.set.replace id d.handlers.length } _).grows
    · exact .refl _

/-- An alarm keeps the handlers. -/
theorem Ring.persists {alarm : HandlerAlarm} (ring : Ring d alarm marks t) :
    d.Persists t.dispatcher := by
  cases ring with
  | lapses gone => exact .refl d
  | delivers at_ woken => exact (persists_wake at_ woken).trans (persists_deliver _ _ _ _ _)
  | ends runs => exact ⟨rfl, Nat.le_refl _⟩
  | stops stopped => exact .refl d
  | @resumes callback x =>
    have finished : d.Persists (d.finish x.current.serial callback x.event) :=
      ⟨rfl, Nat.le_refl _⟩
    exact finished.trans (persists_release _ _)

/-- A move loses no handler, and changes no rules. -/
theorem Move.grows (move : Move s deeds t) : Grows s.dispatcher.handlers t.dispatcher.handlers := by
  cases move with
  | change running change => exact change.grows
  | begin owner event idle => exact .refl _
  | turn first turn => exact turn.persists.grows
  | closes done => exact .refl _
  | ring next ring => exact ring.persists.grows
  | collect taken =>
    rw [eq_of_takeReport? taken]
    exact .refl _
  | wait limit ahead => exact .refl _

/-! ### The set -/

/-- The set of a dispatcher loses the id that is taken out. -/
theorem set_detach (d : Dispatcher) (id : Nat) : (d.detach id).set = d.set.detach id := by
  unfold detach
  split
  · rfl
  · rename_i unknown
    refine (HandlerSet.detach_of_unknown fun known => ?_).symm
    unfold HandlerSet.contains at known
    rw [unknown] at known
    cases known

/-- The set of a dispatcher gets the new handler in the place of the old one. -/
theorem set_replace (d : Dispatcher) (id : Nat) (h : TriggerHandler) :
    (d.replace id h).set = d.set.replace id d.handlers.length := by
  unfold replace
  split
  · rfl
  · rename_i unknown
    refine (HandlerSet.replace_of_unknown fun known => ?_).symm
    unfold HandlerSet.contains at known
    rw [unknown] at known
    cases known

/-- A callback that begins takes out the id that it is meant to. -/
theorem set_start (d : Dispatcher) (origin : DeliveryOrigin) (own : Nat) (callback : Callback)
    (event : Event StateChange) : (d.start own callback event).set =
      (detachedIn (d.startMarks origin own callback event)).elim d.set d.set.detach := by
  unfold start detachedIn startMarks
  rw [List.findSome?_cons]
  dsimp only [Mark.detaches?]
  cases callback.detaches? with
  | some id => exact set_detach _ id
  | none => rfl

/-- A delivery changes the set no more than the beginning of its callback does. -/
theorem set_deliver (d : Dispatcher) (own timer : Nat) (callback : Callback)
    (event : Event StateChange) :
    (d.deliver own timer callback event).set = (d.start own callback event).set := by
  unfold deliver
  dsimp only
  split <;> rfl

/-- A turn changes the set only if its callback takes a handler out. -/
theorem Turn.set (turn : Turn d r a rest marks t) :
    t.dispatcher.set = (detachedIn marks).elim d.set d.set.detach := by
  cases turn with
  | missing => rfl
  | quiet at_ effect => exact set_release _ a
  | opens at_ effect => exact set_release _ a
  | calls at_ effect atOnce => exact (set_release _ a).trans (set_start _ .inline _ _ _)
  | holdsUp at_ effect wakes => exact set_start _ .inline _ _ _

/-- An alarm changes the set only if its callback takes a handler out. -/
theorem Ring.set {alarm : HandlerAlarm} (ring : Ring d alarm marks t) :
    t.dispatcher.set = (detachedIn marks).elim d.set d.set.detach := by
  cases ring with
  | lapses => rfl
  | delivers at_ woken => exact (set_deliver _ _ _ _ _).trans (set_start _ .timer _ _ _)
  | ends runs => rfl
  | stops stopped => rfl
  | resumes => exact set_release _ _

/-- What a callback takes out is written down. -/
theorem fits_callbackDeeds {l : Ledger} (fits : l.Fits d.set) (marks : List Mark) :
    (l.addAll (d.callbackDeeds marks)).Fits ((detachedIn marks).elim d.set d.set.detach) := by
  unfold callbackDeeds
  cases detachedIn marks with
  | none => exact fits
  | some id =>
    rw [Option.toList_some, List.flatMap_singleton]
    exact fits.detach id

/-- What a callback takes out is not written down with the dispatches. -/
theorem rounds_callbackDeeds (l : Ledger) (d : Dispatcher) (marks : List Mark) :
    (l.addAll (d.callbackDeeds marks)).rounds = l.rounds := by
  unfold callbackDeeds
  cases detachedIn marks with
  | none => rfl
  | some id =>
    rw [Option.toList_some, List.flatMap_singleton]
    exact l.rounds_detachDeeds d.set id

/-- After a move the set is what is written down. -/
theorem Move.fits {l : Ledger} (move : Move s deeds t) (fits : l.Fits s.dispatcher.set) :
    (l.addAll deeds).Fits t.dispatcher.set := by
  cases move with
  | change running change =>
    cases change with
    | attach h => exact fits.attach _
    | detach id =>
      rw [set_detach]
      exact fits.detach id
    | replace id h =>
      rw [set_replace]
      exact fits.replace id _
  | begin owner event idle => exact fits.begun event
  | @turn d r a rest marks t first turn =>
    rw [turn.set]
    exact fits_callbackDeeds (fits.evaluated a) marks
  | closes done => exact fits.closed _
  | @ring d alarm timeline marks t next ring =>
    rw [ring.set]
    exact @fits_callbackDeeds d l fits marks
  | collect taken =>
    rw [eq_of_takeReport? taken]
    exact fits
  | wait limit ahead => exact fits

/-! ### Dispatches -/

/-- A dispatch that is held up, as it goes on. -/
def goingOn (x : Dispatch) : Running := ⟨x.owner, x.event, x.rest, x.report⟩

/-- The dispatches that have not come to their end. -/
def pending (s : Stage) : List Running := s.running.toList ++ s.dispatcher.underWay.map goingOn

/-- Which dispatches are pending can be told from the alarms. -/
theorem pending_congr {running : Option Running} (same : d.timeline = d'.timeline) :
    pending ⟨d', running⟩ = pending ⟨d, running⟩ := by
  unfold pending
  rw [underWay_congr same]

/-- A handler fails on an event if its rules contradict each other. -/
theorem failed_meet {h : TriggerHandler} (at_ : d.handlers[a.serial]? = some h) (now : Nat)
    (event : Event StateChange) :
    (h.meet now event).failed = contradicts d.handlers event a := by
  rw [h.failed_meet_iff, contradicts, at_]
  rfl

/-- A dispatch that is at work is the only one. -/
theorem pending_some (idle : d.underWay = []) (r : Running) : pending ⟨d, some r⟩ = [r] := by
  unfold pending
  rw [idle]
  rfl

/-- Where nothing is held up and nobody is at work, no dispatch is pending. -/
theorem pending_none (idle : d.underWay = []) {reports : List (DispatchOwner × DispatchReport)} :
    pending ⟨{ d with reports }, none⟩ = [] := congrArg (List.map goingOn) idle

/-- A turn evaluates the handler, and then the dispatch has one handler less to
come. -/
theorem Turn.pending (turn : Turn d r a rest marks t) (idle : d.underWay = [])
    (known : a.serial < d.handlers.length) : pending t =
      [r.next a rest (contradicts d.handlers r.event a)] := by
  cases turn with
  | missing missing => exact absurd known (Nat.not_lt.2 (List.getElem?_eq_none_iff.1 missing))
  | quiet at_ effect =>
    rw [failed_meet at_]
    refine pending_some ?_ _
    rw [underWay_congr (timeline_release _ a)]
    exact idle
  | opens at_ effect =>
    rw [failed_meet at_]
    refine pending_some ?_ _
    rw [underWay_congr (timeline_release _ a), underWay_arm]
    exact (List.append_nil _).trans idle
  | calls at_ effect atOnce =>
    rw [failed_meet at_]
    refine pending_some ?_ _
    rw [underWay_congr (timeline_release _ a), underWay_congr (timeline_start _ _ _ _)]
    exact idle
  | @holdsUp h due at_ effect wakes =>
    have nothing : ((d.met a h r.event).start a.serial h.callback r.event).underWay = [] := by
      rw [underWay_congr (timeline_start _ _ _ _)]
      exact idle
    unfold Dispatcher.pending
    rw [failed_meet at_, underWay_arm, nothing]
    rfl

/-- An alarm goes off: the dispatch that it held up goes on. -/
theorem Ring.pending {alarm : HandlerAlarm} (ring : Ring d alarm marks t) :
    pending t = (alarm.dispatch?.toList ++ d.underWay).map goingOn := by
  cases ring with
  | lapses => rfl
  | delivers at_ woken =>
    show (Dispatcher.underWay _).map goingOn = _
    rw [underWay_deliver]
    rfl
  | ends runs => rfl
  | stops stopped => rfl
  | resumes =>
    unfold Dispatcher.pending
    rw [underWay_congr (timeline_release _ _)]
    rfl

/-- At most one dispatch is pending at a time. -/
theorem length_pending (sound : Sound s) : (pending s).length ≤ 1 := by
  unfold Dispatcher.pending
  rw [List.length_append, List.length_map]
  exact sound.one

/-- While a dispatch is at work, none is held up. -/
theorem underWay_of_running (sound : Sound ⟨d, some r⟩) : d.underWay = [] := by
  have one : 1 + d.underWay.length ≤ 1 := sound.one
  exact List.length_eq_zero_iff.1 (by omega)

/-- An alarm ends no dispatch and begins none. -/
theorem pending_ring {alarm : HandlerAlarm} {timeline : Timeline HandlerAlarm}
    (next : d.timeline.takeNext? = some (alarm, timeline))
    (ring : Ring { d with timeline } alarm marks t)
    (most : (pending ⟨d, none⟩).length ≤ 1) : pending t = pending ⟨d, none⟩ := by
  have perm : (pending t).Perm (pending ⟨d, none⟩) := by
    rw [ring.pending]
    exact ((underWay_next next).map goingOn).symm
  match before : pending ⟨d, none⟩ with
  | [] =>
    rw [before] at perm
    exact perm.eq_nil
  | [r] =>
    rw [before] at perm
    exact List.perm_singleton.1 perm
  | _ :: _ :: _ =>
    rw [before, List.length_cons, List.length_cons] at most
    omega

end Dispatcher

/-- A dispatch has come to its end: it evaluated the handlers that were present
when it began, and its report is the report on them. -/
structure Round.Finished (handlers : List TriggerHandler) (x : Round) : Prop where
  known : ∀ a ∈ x.shown, a.serial < handlers.length
  evaluated : x.evaluated = x.shown
  report : x.report = some (reportOn handlers x.event x.shown)

/-- A dispatch goes on: it has evaluated all that are not to come any more. -/
structure Round.GoesOn (handlers : List TriggerHandler) (x : Round) (r : Dispatcher.Running) :
    Prop where
  known : ∀ a ∈ x.shown, a.serial < handlers.length
  event : x.event = r.event
  shown : x.shown = x.evaluated ++ r.rest
  report : r.report = reportOn handlers x.event x.evaluated
  noReport : x.report = none

/-- The dispatches that are written down have come to their end, but for the one
that goes on. -/
inductive Tracks (handlers : List TriggerHandler) : List Dispatcher.Running → List Round → Prop where
  | resting {rounds : List Round} (finished : ∀ x ∈ rounds, x.Finished handlers) :
      Tracks handlers [] rounds
  | going {r : Dispatcher.Running} {x : Round} {rounds : List Round} (goesOn : x.GoesOn handlers r)
      (finished : ∀ x ∈ rounds, x.Finished handlers) : Tracks handlers [r] (x :: rounds)

section
variable {handlers handlers' : List TriggerHandler} {rounds : List Round} {x : Round}
  {r : Dispatcher.Running}

/-- A dispatch that has come to its end does not care for handlers that are added
later. -/
theorem Round.Finished.grow (finished : x.Finished handlers) (grows : Grows handlers handlers') :
    x.Finished handlers' where
  known := fun a mem => Nat.lt_of_lt_of_le (finished.known a mem) grows.length_le
  evaluated := finished.evaluated
  report := by
    rw [grows.reportOn finished.known]
    exact finished.report

/-- Nor does a dispatch that goes on. -/
theorem Round.GoesOn.grow (goesOn : x.GoesOn handlers r) (grows : Grows handlers handlers') :
    x.GoesOn handlers' r where
  known := fun a mem => Nat.lt_of_lt_of_le (goesOn.known a mem) grows.length_le
  event := goesOn.event
  shown := goesOn.shown
  report := by
    have evaluated : ∀ a ∈ x.evaluated, a.serial < handlers.length := by
      intro a mem
      refine goesOn.known a ?_
      rw [goesOn.shown]
      exact List.mem_append_left _ mem
    rw [grows.reportOn evaluated]
    exact goesOn.report
  noReport := goesOn.noReport

/-- The next handler of a dispatch is one of those that were there when it began. -/
theorem Round.GoesOn.known_first {a : Attachment} {rest : List Attachment}
    (goesOn : x.GoesOn handlers r) (first : r.rest = a :: rest) : a.serial < handlers.length := by
  refine goesOn.known a ?_
  rw [goesOn.shown, first]
  exact List.mem_append_right _ List.mem_cons_self

/-- What is tracked stays true when handlers are added. -/
theorem Tracks.grow {running : List Dispatcher.Running} (tracks : Tracks handlers running rounds)
    (grows : Grows handlers handlers') : Tracks handlers' running rounds := by
  cases tracks with
  | resting finished => exact .resting fun x mem => (finished x mem).grow grows
  | going goesOn finished =>
    exact .going (goesOn.grow grows) fun x mem => (finished x mem).grow grows

/-- A dispatch evaluates those that it shows the event in order, and all of them
if it comes to its end. -/
theorem Tracks.evaluated {running : List Dispatcher.Running} (tracks : Tracks handlers running rounds)
    (mem : x ∈ rounds) : x.evaluated <+: x.shown ∧ ∀ report, x.report = some report →
      x.evaluated = x.shown ∧ report.IsOn handlers x.event x.shown := by
  have ended : ∀ y : Round, y.Finished handlers → y.evaluated <+: y.shown ∧
      ∀ report, y.report = some report →
        y.evaluated = y.shown ∧ report.IsOn handlers y.event y.shown := by
    intro y finished
    refine ⟨finished.evaluated ▸ List.prefix_rfl, fun report isReport => ⟨finished.evaluated, ?_⟩⟩
    obtain rfl : reportOn handlers y.event y.shown = report :=
      Option.some.inj (finished.report.symm.trans isReport)
    exact reportOn_isOn _ _ _
  cases tracks with
  | resting finished => exact ended x (finished x mem)
  | @going r y rounds goesOn finished =>
    rcases List.mem_cons.1 mem with rfl | older
    · refine ⟨⟨r.rest, goesOn.shown.symm⟩, fun report isReport => ?_⟩
      rw [goesOn.noReport] at isReport
      cases isReport
    · exact ended x (finished x older)

/-- If a dispatch goes on, it is the latest one that was written down. -/
theorem Tracks.of_one (tracks : Tracks handlers [r] rounds) :
    ∃ x others, rounds = x :: others ∧ x.GoesOn handlers r ∧ ∀ y ∈ others, y.Finished handlers := by
  cases tracks with
  | going goesOn finished => exact ⟨_, _, rfl, goesOn, finished⟩

/-- A turn of a dispatch is written down. -/
theorem Round.GoesOn.evaluated {a : Attachment} {rest : List Attachment}
    (goesOn : x.GoesOn handlers r) (first : r.rest = a :: rest) :
    { x with evaluated := x.evaluated ++ [a] }.GoesOn handlers
      (r.next a rest (contradicts handlers r.event a)) where
  known := goesOn.known
  event := goesOn.event
  shown := by
    show x.shown = (x.evaluated ++ [a]) ++ rest
    rw [goesOn.shown, first, List.append_assoc]
    rfl
  report := by
    show r.report.add _ _ = reportOn handlers x.event (x.evaluated ++ [a])
    rw [reportOn_concat, goesOn.report, goesOn.event]
  noReport := goesOn.noReport

/-- The end of a dispatch is written down. -/
theorem Round.GoesOn.closed (goesOn : x.GoesOn handlers r) (done : r.rest = []) :
    { x with report := some r.report }.Finished handlers := by
  have all : x.shown = x.evaluated := by
    rw [goesOn.shown, done, List.append_nil]
  refine ⟨goesOn.known, all.symm, ?_⟩
  show some r.report = some (reportOn handlers x.event x.shown)
  rw [goesOn.report, all]

end

namespace Dispatcher

variable {d d' : Dispatcher} {s t : Stage} {deeds : List Deed} {l : Ledger}

/-- What is written down of the dispatches stays true. -/
theorem Move.tracks (move : Move s deeds t) (sound : Sound s) (fits : l.Fits s.dispatcher.set)
    (tracks : Tracks s.dispatcher.handlers (pending s) l.rounds) :
    Tracks t.dispatcher.handlers (pending t) (l.addAll deeds).rounds := by
  -- Handlers may be added during a dispatch, which leaves the reports on the old ones
  -- as they are.
  have grows := move.grows
  cases move with
  | @change d d' deeds running change =>
    have grown := tracks.grow grows
    cases change with
    | attach h => exact grown
    | detach id =>
      rw [l.rounds_detachDeeds, pending_congr (timeline_detach d id).symm]
      exact grown
    | replace id h =>
      rw [l.rounds_replaceDeeds, pending_congr (timeline_replace d id h).symm]
      exact grown
  | @begin d owner event idle =>
    have known : ∀ a ∈ l.present, a.serial < d.handlers.length := by
      rw [← fits.present]
      exact sound.set.known
    rw [pending_none idle] at tracks
    rw [pending_some idle]
    cases tracks with
    | resting finished => exact .going ⟨known, rfl, fits.present.symm, rfl, rfl⟩ finished
  | @turn d r a rest marks t first turn =>
    have idle := underWay_of_running sound
    rw [pending_some idle r] at tracks
    obtain ⟨x, others, rounds, goesOn, finished⟩ := tracks.of_one
    have evaluated : (l.addAll (.evaluated a :: d.callbackDeeds marks)).rounds =
        { x with evaluated := x.evaluated ++ [a] } :: others := by
      show ((l.add (.evaluated a)).addAll _).rounds = _
      rw [rounds_callbackDeeds]
      show l.rounds.modifyHead _ = _
      rw [rounds]
      rfl
    rw [turn.pending idle (goesOn.known_first first), evaluated]
    exact (Tracks.going (goesOn.evaluated first) finished).grow grows
  | @closes d r done =>
    have idle := underWay_of_running sound
    rw [pending_some idle r] at tracks
    obtain ⟨x, others, rounds, goesOn, finished⟩ := tracks.of_one
    have closed : (l.addAll [.closed r.report]).rounds =
        { x with report := some r.report } :: others := by
      show l.rounds.modifyHead _ = _
      rw [rounds]
      rfl
    rw [pending_none idle, closed]
    exact .resting (List.forall_mem_cons.2 ⟨goesOn.closed done, finished⟩)
  | ring next ring =>
    rw [pending_ring next ring (length_pending sound), rounds_callbackDeeds]
    exact tracks.grow grows
  | collect taken =>
    rw [eq_of_takeReport? taken]
    exact tracks
  | wait limit ahead => exact tracks

/-- Set and dispatches are as they are written down. -/
structure Recorded (s : Stage) (l : Ledger) : Prop where
  sound : Sound s
  fits : l.Fits s.dispatcher.set
  tracks : Tracks s.dispatcher.handlers (pending s) l.rounds

/-- After any moves the set and its dispatches are as they are written down. -/
theorem Moves.recorded {now : Nat} (moves : Moves ⟨new now, none⟩ deeds s) :
    Recorded s (.ofDeeds deeds) := by
  induction moves with
  | nil => exact ⟨sound_new now, Ledger.fits_empty, .resting fun _ mem => absurd mem List.not_mem_nil⟩
  | snoc moves move ih =>
    unfold Ledger.ofDeeds
    rw [Ledger.addAll_append]
    exact ⟨move.sound ih.sound, move.fits ih.fits, move.tracks ih.sound ih.fits ih.tracks⟩

/-! ### The report of a dispatch that is asked for -/

/-- A turn delivers no report. -/
theorem Turn.reports {r : Running} {a : Attachment} {rest : List Attachment} {marks : List Mark}
    (turn : Turn d r a rest marks t) : t.dispatcher.reports = d.reports := by
  cases turn with
  | missing => rfl
  | quiet at_ effect => exact reports_release _ a
  | opens at_ effect => exact reports_release _ a
  | calls at_ effect atOnce => exact (reports_release _ a).trans (reports_start _ _ _ _)
  | holdsUp at_ effect wakes => exact reports_start _ _ _ _

/-- An alarm delivers no report, as it brings no dispatch to its end at once. -/
theorem Ring.reports {alarm : HandlerAlarm} {marks : List Mark} (ring : Ring d alarm marks t) :
    t.dispatcher.reports = d.reports := by
  cases ring with
  | lapses => rfl
  | delivers at_ woken => exact reports_deliver _ _ _ _ _
  | ends runs => rfl
  | stops stopped => rfl
  | resumes => exact reports_release _ _

/-- The dispatch that was asked for goes on, or its report is the report on the
handlers that were shown the event. -/
inductive Counts (event : Event StateChange) (shown : List Attachment) (s : Stage) : Prop where
  | goesOn {r : Running} {x : Round} (one : pending s = [r])
      (goesOn : x.GoesOn s.dispatcher.handlers r) (ofEvent : x.event = event)
      (isShown : x.shown = shown) (owner : r.owner = .request)
      (noReport : ∀ p ∈ s.dispatcher.reports, p.1 ≠ .request)
  | ended (rests : s.running = none) (isThere : ∃ report, (.request, report) ∈ s.dispatcher.reports)
      (known : ∀ a ∈ shown, a.serial < s.dispatcher.handlers.length)
      (reported : ∀ p ∈ s.dispatcher.reports, p.1 = .request →
        p.2 = reportOn s.dispatcher.handlers event shown)

section
variable {event : Event StateChange} {shown : List Attachment} {r : Running}

/-- A dispatch at work is the only one that is pending. -/
theorem of_pending_some {r' : Running} (one : pending ⟨d, some r⟩ = [r']) :
    r' = r ∧ d.underWay = [] := by
  obtain ⟨same, none_⟩ := List.cons.inj one
  exact ⟨same.symm, List.map_eq_nil_iff.1 none_⟩

/-- A turn takes the dispatch that was asked for one handler further. -/
theorem Counts.turn {a : Attachment} {rest : List Attachment} {marks : List Mark}
    (counts : Counts event shown ⟨d, some r⟩) (first : r.rest = a :: rest)
    (turn : Turn d r a rest marks t) : Counts event shown t := by
  cases counts with
  | ended rests => cases rests
  | @goesOn r' x one goesOn ofEvent isShown owner noReport =>
    obtain ⟨rfl, idle⟩ := of_pending_some one
    have evaluated := (goesOn.evaluated first).grow turn.persists.grows
    refine .goesOn (turn.pending idle (goesOn.known_first first)) evaluated ofEvent isShown owner ?_
    rw [turn.reports]
    exact noReport

/-- At its end the dispatch that was asked for delivers its report. -/
theorem Counts.closes (counts : Counts event shown ⟨d, some r⟩) (done : r.rest = []) :
    Counts event shown ⟨{ d with reports := d.reports ++ [(r.owner, r.report)] }, none⟩ := by
  cases counts with
  | ended rests => cases rests
  | @goesOn r' x one goesOn ofEvent isShown owner noReport =>
    obtain ⟨rfl, idle⟩ := of_pending_some one
    have closed := goesOn.closed done
    subst ofEvent isShown
    have isThere : (.request, r'.report) ∈ d.reports ++ [(r'.owner, r'.report)] := by
      rw [owner]
      exact List.mem_append_right _ List.mem_cons_self
    refine .ended rfl ⟨_, isThere⟩ closed.known fun p mem isRequest => ?_
    rcases List.mem_append.1 mem with old | new
    · exact absurd isRequest (noReport p old)
    · rw [List.mem_singleton.1 new]
      exact Option.some.inj closed.report

/-- All at once, the dispatch that was asked for goes on until it is held up or
ends. -/
theorem Counts.proceed {owner : DispatchOwner} {event' : Event StateChange} {as : List Attachment}
    {report : DispatchReport} (counts : Counts event shown ⟨d, some ⟨owner, event', as, report⟩⟩) :
    Counts event shown ⟨proceed owner event' as report d, none⟩ :=
  proceed_induction (P := Counts event shown) (fun first turn counts => counts.turn first turn)
    (fun done counts => counts.closes done) counts

/-- An alarm goes off while the dispatch that was asked for is held up. -/
theorem Counts.fire {alarm : HandlerAlarm} {timeline : Timeline HandlerAlarm}
    (counts : Counts event shown ⟨d, none⟩) (next : d.timeline.takeNext? = some (alarm, timeline))
    (none_ : d.takeReport? .request = none) :
    Counts event shown ⟨{ d with timeline }.fire alarm, none⟩ := by
  cases counts with
  | ended rests isThere known reported =>
    obtain ⟨report, isThere⟩ := isThere
    exact absurd rfl (takeReport?_eq_none.1 none_ _ isThere)
  | @goesOn r x one goesOn ofEvent isShown owner noReport =>
    have rang : ∀ {marks : List Mark} {t : Stage}, Ring { d with timeline } alarm marks t →
        Counts event shown t := by
      intro marks t ring
      have same : pending t = [r] :=
        (pending_ring next ring (Nat.le_of_eq (congrArg List.length one))).trans one
      refine .goesOn same (goesOn.grow ring.persists.grows) ofEvent isShown owner ?_
      rw [ring.reports]
      exact noReport
    cases isTurn : alarm.dispatch? with
    | none =>
      obtain ⟨marks, ring⟩ := fire_ring _ isTurn { d with timeline }
      exact rang ring
    | some y =>
      cases alarm with
      | turn callback y => exact (rang .resumes).proceed
      | window serial timer => cases isTurn
      | delivery serial timer callback event => cases isTurn

/-- A report that is taken was delivered. -/
theorem mem_of_takeReport? {owner : DispatchOwner} {report : DispatchReport}
    (taken : d.takeReport? owner = some (report, d')) : (owner, report) ∈ d.reports := by
  unfold takeReport? at taken
  obtain ⟨p, found, e⟩ := Option.map_eq_some_iff.1 taken
  obtain rfl : p.2 = report := congrArg Prod.fst e
  have isOwner : p.1 = owner := by simpa using List.find?_some found
  rw [← isOwner]
  exact List.mem_of_find?_eq_some found

/-- The report that is taken is the report on the handlers that were shown the
event. -/
theorem Counts.taken {report : DispatchReport} (counts : Counts event shown ⟨d, none⟩)
    (taken : d.takeReport? .request = some (report, d')) :
    report = reportOn d.handlers event shown := by
  have mem := mem_of_takeReport? taken
  cases counts with
  | ended rests isThere known reported => exact reported _ mem rfl
  | goesOn one goesOn ofEvent isShown owner noReport => exact absurd rfl (noReport _ mem)

/-- With enough fuel, alarms ring until the report is there, and it is the report on
the handlers that were shown the event. -/
theorem Counts.fireUntilReport {handlers : List TriggerHandler} {fuel : Nat}
    (known : ∀ a ∈ shown, a.serial < handlers.length) (grows : Grows handlers d.handlers)
    (counts : Counts event shown ⟨d, none⟩) (asked : d.Asked) (enough : d.work ≤ fuel) :
    (fireUntilReport fuel d).2 = reportOn handlers event shown := by
  -- Each alarm takes some of the work away, so the fuel covers what is left of it.
  induction fuel generalizing d with
  | zero =>
    have noAlarm := alarms_of_work (Nat.le_zero.1 enough)
    unfold Dispatcher.fireUntilReport
    split
    · rename_i report d' taken
      rw [counts.taken taken, grows.reportOn known]
    · rename_i none_ _
      obtain ⟨alarm, timeline, next⟩ := asked.next none_
      obtain ⟨due, perm, -, -⟩ := Timeline.takeNext?_eq_some next
      rw [noAlarm] at perm
      cases perm.symm.eq_nil
    · rename_i zero
      cases zero
  | succ fuel ih =>
    unfold Dispatcher.fireUntilReport
    split
    · rename_i report d' taken
      rw [counts.taken taken, grows.reportOn known]
    · rename_i zero
      cases zero
    · rename_i fuel' none_ succ
      cases succ
      split
      · rename_i alarm timeline next
        have less := work_fire next
        have persists := persists_fire { d with timeline } alarm
        exact ih (grows.trans persists.grows) (counts.fire next none_) (asked.fire next) (by omega)
      · rename_i noNext
        obtain ⟨alarm, timeline, next⟩ := asked.next none_
        rw [next] at noNext
        cases noNext

/-- A dispatch that is asked for reports on the handlers that are there when it
begins. -/
theorem report_dispatch (idle : d.Idle) (sound : d.set.Sound d.handlers.length)
    (event : Event StateChange) :
    (d.dispatch event).2 = reportOn d.handlers event d.set.attachments := by
  have asked : (d.begin .request event).Asked := idle.asked_proceed event _ _
  have begun : Counts event d.set.attachments
      ⟨d, some ⟨.request, event, d.set.attachments, .empty⟩⟩ :=
    .goesOn (pending_some idle.nothing _) (x := ⟨event, d.set.attachments, [], none⟩)
      ⟨sound.known, rfl, rfl, rfl, rfl⟩ rfl rfl rfl idle.taken
  have grows : Grows d.handlers (d.begin .request event).handlers :=
    (persists_proceed .request event d.set.attachments .empty d).grows
  exact begun.proceed.fireUntilReport sound.known grows asked (Nat.le_refl _)

end

/-! ### Order, evaluations and reports -/

/-- Between requests no dispatch is under way. -/
theorem actAll_idle {requests : List Request} (idle : d.Idle) : (d.actAll requests).Idle := by
  induction requests generalizing d with
  | nil => exact idle
  | cons request rest ih => exact ih (act_reaches idle request).2

/-- Whatever is done with a set, and also while a dispatch of it goes on, ids are
handed out in increasing order, and the set holds the handlers that were attached
and not yet detached, in this order, each behind the id of those whose place it
took. A dispatch evaluates the handlers that are present when it begins, each
once and in this order. Its report counts them all, and names those to which the
event both qualifies and which it cancels. So does the report that comes of a
request to dispatch, after any requests before. -/
theorem handlers_in_order (now : Nat) :
    (∀ {deeds : List Deed} {s : Stage}, Moves ⟨new now, none⟩ deeds s →
      (Ledger.ofDeeds deeds).handedOut.Pairwise (· < ·) ∧
      s.dispatcher.set.attachments = (Ledger.ofDeeds deeds).present ∧
      ∀ x ∈ (Ledger.ofDeeds deeds).rounds, x.evaluated <+: x.shown ∧
        ∀ report, x.report = some report → x.evaluated = x.shown ∧
          report.IsOn s.dispatcher.handlers x.event x.shown) ∧
    ∀ requests : List Request,
      (∃ deeds, Moves ⟨new now, none⟩ deeds ⟨(new now).actAll requests, none⟩) ∧
      ∀ event, (((new now).actAll requests).dispatch event).2.IsOn
        ((new now).actAll requests).handlers event ((new now).actAll requests).set.attachments := by
  refine ⟨fun moves => ?_, fun requests => ?_⟩
  · have recorded := moves.recorded
    exact ⟨recorded.fits.increasing, recorded.fits.present,
      fun x mem => recorded.tracks.evaluated mem⟩
  · obtain ⟨marks, run⟩ := actAll_reaches now requests
    refine ⟨run.moves, fun event => ?_⟩
    have idle : ((new now).actAll requests).Idle :=
      actAll_idle ⟨rfl, fun _ mem => absurd mem List.not_mem_nil⟩
    rw [report_dispatch idle (run.sound (sound_new now)).set]
    exact reportOn_isOn _ _ _

/-- The first handler takes the second one out while a dispatch has it yet to
come, and a third one is attached. The second one is evaluated all the same, and
the third one is not. -/
theorem handlers_in_order_mid_dispatch :
    ∃ deeds s x, Moves ⟨new 0, none⟩ deeds s ∧
      s.dispatcher.set.attachments = [⟨1, 0⟩, ⟨3, 2⟩] ∧
      (Ledger.ofDeeds deeds).present = [⟨1, 0⟩, ⟨3, 2⟩] ∧
      (Ledger.ofDeeds deeds).rounds = [x] ∧ x.evaluated = [⟨1, 0⟩, ⟨2, 1⟩] ∧
      x.evaluated <+: x.shown := by
  have attached := (Moves.nil (s := ⟨new 0, none⟩)).snoc (.change none
    (.attach (.ofRules .empty 0 (.script ⟨"first", some 2, none, none, .success⟩))))
  have both := attached.snoc (.change none
    (.attach (.ofRules .empty 0 (.script (.plain "second")))))
  have begun := both.snoc (.begin .request bareChange rfl)
  have first := begun.snoc (.turn rfl
    (.calls (h := .ofRules .empty 0 (.script ⟨"first", some 2, none, none, .success⟩)) rfl rfl rfl))
  have third := first.snoc (.change _
    (.attach (.ofRules .empty 0 (.script (.plain "third")))))
  have second := third.snoc (.turn rfl
    (.calls (h := .ofRules .empty 0 (.script (.plain "second"))) rfl rfl rfl))
  have closed := second.snoc (.closes rfl)
  obtain ⟨-, present, rounds⟩ := (handlers_in_order 0).1 closed
  exact ⟨_, _, _, closed, rfl, present.symm.trans rfl, rfl, rfl, (rounds _ List.mem_cons_self).1⟩

end Dispatcher

end HubAutomation
