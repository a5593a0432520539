import HubAutomation.Proofs.Runner.Runs
import HubAutomation.Proofs.Runner.Unfailing

/-!
# A run returns

Messages of the hub arrive and time passes, and after each of them the run goes
on as far as it gets. That is one of the ways in which a run can go on. Once the
hub has ended the connection, the run reads what is left in its stream, waits
for the callbacks that hold it up, and returns.

- `Occurrence`: a message of the hub, or a pause. `Runner.occurAll`: all that
  comes of them.
- `Runner.Waits`: a run that went on as far as it got.
- `Runner.Waits.returns`: after the end of the connection, a run that is waited
  for returns.
- `Runner.run_counts`: what it has dispatched then, and what it returns.
-/

namespace HubAutomation

/-- What happens around a run; time that passes comes with the stamp for what the
run reads by then. -/
inductive Occurrence where
  | message (arrival : Arrival)
  | pause (stamp : Stamp) (milliseconds : Nat)

theorem Timeline.target_longestStep {κ : Type} (t : Timeline κ) :
    t.target longestStep = t.now + longestStep := by
  rw [target, Nat.min_self]

namespace Occurrence

def arrival? : Occurrence → Option Arrival
  | .message a => some a
  | .pause _ _ => none

/-- The messages among what happens. -/
def arrivals (os : List Occurrence) : List Arrival := os.filterMap arrival?

end Occurrence

namespace Runner

/-- Something happens, and the run goes on as far as it gets. -/
def occur (r : Runner) : Occurrence → Runner
  | .message a => r.deliver a.stamp [a.item]
  | .pause stamp milliseconds => r.advance stamp milliseconds

def occurAll (r : Runner) (os : List Occurrence) : Runner := os.foldl occur r

/-- Whatever the hub sends, the stream has room for it. -/
def HasRoom (capacity : Nat) (r : Runner) : List Occurrence → Prop
  | [] => True
  | .message a :: rest => r.Fits capacity a ∧ HasRoom capacity (r.occur (.message a)) rest
  | .pause stamp milliseconds :: rest =>
    HasRoom capacity (r.occur (.pause stamp milliseconds)) rest

instance decidableHasRoom (capacity : Nat) :
    ∀ (r : Runner) (os : List Occurrence), Decidable (HasRoom capacity r os)
  | _, [] => inferInstanceAs (Decidable True)
  | r, .message a :: rest =>
    have := decidableHasRoom capacity (r.occur (.message a)) rest
    inferInstanceAs (Decidable (_ ∧ _))
  | r, .pause stamp milliseconds :: rest =>
    decidableHasRoom capacity (r.occur (.pause stamp milliseconds)) rest

/-- Some pauses, one after another. -/
def pass (stamp : Stamp) (r : Runner) (pauses : List Nat) : Runner := pauses.foldl (advance stamp) r

variable {stamp : Stamp} {arrivals later : List Arrival} {a : Arrival} {capacity : Nat}
  {handlers : List TriggerHandler} {log : List BegunDispatch} {r s s' : Runner}

/-! ### As far as it gets -/

/-- How many steps a run can take at most before something happens. -/
def stepsLeft (r : Runner) : Nat :=
  match r.run with
  | .subscribing => 2 * r.unread + 3
  | .feeding _ => 2 * r.unread + 1
  | .dispatching _ => 2 * r.unread + 2
  | .over _ => 0

/-- What an event costs that is dispatched: two steps, and two alarms for each
handler. -/
theorem work_begin {d : Dispatcher} {u u' : Nat} (less : u' < u) (change : Event StateChange) :
    (d.begin .run change).work + u' * (2 * (d.begin .run change).set.size + 1) ≤
      d.work + u * (2 * d.set.size + 1) := by
  have most : (d.begin .run change).work ≤ d.work + 2 * d.set.size :=
    Dispatcher.work_proceed .run change d.set.attachments .empty d
  have size : (d.begin .run change).set.size ≤ d.set.size :=
    (Dispatcher.persists_proceed .run change d.set.attachments .empty d).size
  calc (d.begin .run change).work + u' * (2 * (d.begin .run change).set.size + 1)
      ≤ d.work + 2 * d.set.size + u' * (2 * d.set.size + 1) :=
        Nat.add_le_add most (Nat.mul_le_mul_left _ (by omega))
    _ ≤ d.work + (u' + 1) * (2 * d.set.size + 1) := by
        rw [Nat.succ_mul u']
        omega
    _ ≤ d.work + u * (2 * d.set.size + 1) :=
        Nat.add_le_add_left (Nat.mul_le_mul_right _ less) _

/-- A step brings a run nearer to where it has to wait, and adds no alarms to
those that count for it. -/
theorem Progress.step_less (progress : Progress capacity handlers arrivals log s)
    (step : s.step? stamp = some s') : s'.stepsLeft < s.stepsLeft ∧ s'.work ≤ s.work := by
  cases progress with
  | asking | returned => cases step
  | @answered automations room rests same =>
    obtain rfl := Option.some.inj ((step?_answered _ _ _ _).symm.trans step)
    exact ⟨Nat.lt_add_of_pos_right (Nat.succ_pos 1), Nat.le_refl _⟩
  | @feeding automations log next le lossless logged rests same =>
    rcases fed_step lossless step with
      ⟨e, change, next', ⟨-, later, le', -, -⟩, -, rfl⟩ | ⟨-, -, -, next', later, rfl⟩
    · constructor
      · show 2 * Runner.unread _ + 2 < 2 * Runner.unread _ + 1
        rw [setDispatcher, unread_attached, unread_attached]
        omega
      · rw [work, work, setDispatcher, unread_attached, unread_attached]
        exact work_begin (by omega) change
    · constructor
      · exact Nat.succ_pos _
      · rw [work, work, unread_attached, unread_attached]
        exact Nat.add_le_add_left (Nat.mul_le_mul_right _ (by omega)) _
  | @dispatching automations log b next le room logged evaluates same =>
    obtain ⟨⟨report, d⟩, taken, rfl⟩ := Option.map_eq_some_iff.1 step
    obtain rfl := Dispatcher.eq_of_takeReport? taken
    exact ⟨Nat.lt_succ_self _, Nat.le_refl _⟩

theorem Goes.steps (goes : Goes capacity r arrivals log s) (fuel : Nat) :
    ∃ log, Goes capacity r arrivals log (steps stamp fuel s) := by
  induction fuel generalizing log s with
  | zero => exact ⟨log, goes⟩
  | succ fuel ih =>
    unfold Runner.steps
    split
    · rename_i s' step
      exact ih (goes.step step)
    · exact ⟨log, goes⟩

theorem Progress.steps {fuel : Nat} (progress : Progress capacity handlers arrivals log s)
    (enough : s.stepsLeft ≤ fuel) :
    (steps stamp fuel s).step? stamp = none ∧ (steps stamp fuel s).work ≤ s.work := by
  induction fuel generalizing log s with
  | zero =>
    have still : s.step? stamp = none := by
      cases step : s.step? stamp with
      | none => rfl
      | some s' => exact absurd (progress.step_less step).1 (by omega)
    exact ⟨still, Nat.le_refl _⟩
  | succ fuel ih =>
    unfold Runner.steps
    split
    · rename_i s' step
      obtain ⟨less, work⟩ := progress.step_less step
      obtain ⟨still, work'⟩ := ih (progress.step step) (by omega)
      exact ⟨still, work'.trans work⟩
    · rename_i still
      exact ⟨still, Nat.le_refl _⟩

theorem Progress.resume (progress : Progress capacity handlers arrivals log s) :
    (resume stamp s).step? stamp = none ∧ (resume stamp s).work ≤ s.work := by
  refine progress.steps ?_
  unfold stepsLeft
  split <;> omega

/-! ### What happens is a way to go on -/

/-- A run of some handlers that went on from `r` as far as it got, when the hub
has sent `arrivals`. -/
structure Waits (capacity : Nat) (handlers : List TriggerHandler) (r : Runner)
    (arrivals : List Arrival) (s : Runner) : Prop where
  starts : Progress capacity handlers [] [] r
  goes : ∃ log, Goes capacity r arrivals log s
  still : ∃ stamp, s.step? stamp = none

/-- A run goes on as far as it gets. -/
theorem Goes.waits (goes : Goes capacity r arrivals log s)
    (starts : Progress capacity handlers [] [] r)
    (acknowledged : Acknowledged (arrivals ++ later)) :
    Waits capacity handlers r arrivals (resume stamp s) ∧ (resume stamp s).work ≤ s.work := by
  obtain ⟨still, work⟩ := (goes.progress starts acknowledged).resume
  exact ⟨⟨starts, goes.steps (2 * s.unread + 4), stamp, still⟩, work⟩

/-- Whether a run can take a step does not depend on the clock. -/
theorem still_setDispatcher {d : Dispatcher} (still : s.step? stamp = none)
    (same : d.reports = s.dispatcher.reports) : (s.setDispatcher d).step? stamp = none := by
  obtain ⟨session, automations, call, run⟩ := s
  rcases run with _ | summary | summary | result
  · cases result : session.result? call with
    | none => simp [step?, setDispatcher, result]
    | some result' => cases result' <;> simp [step?, result] at still
  · cases listener : session.listener? call with
    | none => simp [step?, setDispatcher, listener]
    | some l =>
      cases received : session.receiveChange stamp l with
      | mk change session' => cases change <;> simp_all [step?, setDispatcher]
  · have none_ := Dispatcher.takeReport?_eq_none.1 (Option.map_eq_none_iff.1 still)
    exact Option.map_eq_none_iff.2 (Dispatcher.takeReport?_eq_none.2 (same ▸ none_))
  · rfl

theorem Waits.deliver (waits : Waits capacity handlers r arrivals s) (fits : s.Fits capacity a)
    (acknowledged : Acknowledged ((arrivals ++ [a]) ++ later)) :
    Waits capacity handlers r (arrivals ++ [a]) (s.deliver a.stamp [a.item]) := by
  obtain ⟨log, goes⟩ := waits.goes
  exact ((goes.message fits).waits waits.starts acknowledged).1

theorem Waits.fire {alarm : HandlerAlarm} {timeline : Timeline HandlerAlarm}
    (waits : Waits capacity handlers r arrivals s)
    (acknowledged : Acknowledged (arrivals ++ later))
    (next : s.dispatcher.timeline.takeNext? = some (alarm, timeline)) :
    Waits capacity handlers r arrivals (s.fire stamp alarm timeline) ∧
      (s.fire stamp alarm timeline).work < s.work := by
  obtain ⟨log, goes⟩ := waits.goes
  obtain ⟨waits', work⟩ := (goes.alarm next).waits waits.starts acknowledged
  have less : (s.ring alarm timeline).work < s.work := by
    have fewer := Dispatcher.work_fire next
    have size : ({ s.dispatcher with timeline }.fire alarm).set.size ≤ s.dispatcher.set.size :=
      (Dispatcher.persists_fire { s.dispatcher with timeline } alarm).size
    exact Nat.add_lt_add_of_lt_of_le fewer
      (Nat.mul_le_mul_left _ (Nat.succ_le_succ (Nat.mul_le_mul_left 2 size)))
  exact ⟨waits', Nat.lt_of_le_of_lt work less⟩

theorem Waits.fireUpTo (waits : Waits capacity handlers r arrivals s)
    (acknowledged : Acknowledged (arrivals ++ later)) (limit fuel : Nat) :
    Waits capacity handlers r arrivals (fireUpTo stamp limit fuel s) ∧
      (fireUpTo stamp limit fuel s).work ≤ s.work := by
  induction fuel generalizing s with
  | zero => exact ⟨waits, Nat.le_refl _⟩
  | succ fuel ih =>
    unfold Runner.fireUpTo
    split
    · rename_i alarm timeline taken
      obtain ⟨waits', less⟩ :=
        waits.fire acknowledged (Timeline.takeNext?_of_take? taken)
      obtain ⟨waits'', work⟩ := ih waits'
      exact ⟨waits'', work.trans less.le⟩
    · exact ⟨waits, Nat.le_refl _⟩

theorem Waits.moveTo (waits : Waits capacity handlers r arrivals s) (now : Nat) :
    Waits capacity handlers r arrivals (s.moveTo now) := by
  obtain ⟨log, goes⟩ := waits.goes
  obtain ⟨stamp, still⟩ := waits.still
  exact ⟨waits.starts, ⟨log, goes.wait now⟩, stamp, still_setDispatcher still rfl⟩

theorem Waits.advance (stamp : Stamp) (waits : Waits capacity handlers r arrivals s)
    (acknowledged : Acknowledged (arrivals ++ later)) (milliseconds : Nat) :
    Waits capacity handlers r arrivals (s.advance stamp milliseconds) :=
  (waits.fireUpTo acknowledged _ _).1.moveTo _

/-- Whatever happens while there is room, the run goes on. -/
theorem Waits.occurAll {os : List Occurrence} (waits : Waits capacity handlers r arrivals s)
    (acknowledged : Acknowledged (arrivals ++ Occurrence.arrivals os))
    (room : s.HasRoom capacity os) :
    Waits capacity handlers r (arrivals ++ Occurrence.arrivals os) (occurAll s os) := by
  induction os generalizing arrivals s with
  | nil =>
    show Waits capacity handlers r (arrivals ++ []) s
    rwa [List.append_nil]
  | cons o rest ih =>
    cases o with
    | message a =>
      have all : arrivals ++ Occurrence.arrivals (.message a :: rest) =
          arrivals ++ [a] ++ Occurrence.arrivals rest := by
        rw [List.append_assoc]
        rfl
      rw [all] at acknowledged ⊢
      exact ih (waits.deliver room.1 acknowledged) acknowledged room.2
    | pause stamp milliseconds =>
      exact ih (waits.advance stamp acknowledged milliseconds) acknowledged room

/-! ### The end -/

/-- Once the connection has ended, a run is over, or it waits for a callback. -/
theorem Waits.over_or_next (waits : Waits capacity handlers r arrivals s)
    (acknowledged : Acknowledged (arrivals ++ later)) (down : goesOn arrivals = false) :
    (∃ result, s.result? = some result) ∨
      ∃ alarm timeline, s.dispatcher.timeline.takeNext? = some (alarm, timeline) := by
  obtain ⟨log, goes⟩ := waits.goes
  obtain ⟨stamp, still⟩ := waits.still
  cases goes.progress waits.starts acknowledged with
  | asking on => exact absurd (on.symm.trans down) Bool.noConfusion
  | answered =>
    rw [down] at still
    cases still
  | feeding le lossless =>
    rw [down] at lossless still
    rcases fed_cases stamp _ (tally handlers log) lossless with
      ⟨_, _, _, -, -, goes⟩ | ⟨-, -, _, -, goes⟩
    · cases goes.symm.trans still
    · cases goes.symm.trans still
  | dispatching le room logged evaluates same =>
    have none_ := Option.map_eq_none_iff.1 still
    refine .inr (Timeline.takeNext?_isSome fun noAlarm => ?_)
    have nothing : Dispatcher.underWay _ = [] := congrArg (List.filterMap _) noAlarm
    obtain ⟨report, d, taken⟩ := evaluates.report nothing
    cases none_.symm.trans taken
  | returned => exact .inl ⟨_, rfl⟩

/-- Nothing is due. -/
theorem fireUpTo_of_none {limit fuel : Nat} (none_ : s.dispatcher.timeline.take? limit = none) :
    Runner.fireUpTo stamp limit fuel s = s := by
  cases fuel with
  | zero => rfl
  | succ fuel => rw [Runner.fireUpTo, none_]

/-- An alarm goes off while time passes. -/
theorem Waits.advance_less {alarm : HandlerAlarm} {timeline : Timeline HandlerAlarm}
    {milliseconds : Nat} (waits : Waits capacity handlers r arrivals s)
    (acknowledged : Acknowledged (arrivals ++ later))
    (taken : s.dispatcher.timeline.take? (s.dispatcher.timeline.target milliseconds) =
      some (alarm, timeline)) : (s.advance stamp milliseconds).work < s.work := by
  obtain ⟨waits', less⟩ := waits.fire acknowledged (Timeline.takeNext?_of_take? taken)
  obtain ⟨fuel, enough⟩ : ∃ fuel, s.work = fuel + 1 := Nat.exists_eq_add_one.2 (by omega)
  have first : Runner.fireUpTo stamp (s.dispatcher.timeline.target milliseconds) s.work s =
      Runner.fireUpTo stamp (s.dispatcher.timeline.target milliseconds) fuel
        (s.fire stamp alarm timeline) := by
    rw [enough, Runner.fireUpTo, taken]
  show (Runner.fireUpTo stamp (s.dispatcher.timeline.target milliseconds) s.work s).work < s.work
  rw [first]
  exact Nat.lt_of_le_of_lt (waits'.fireUpTo acknowledged _ fuel).2 less

/-- An alarm goes off if one waits long enough. -/
theorem Waits.passes {alarm : Alarm HandlerAlarm} {n : Nat} (stamp : Stamp)
    (waits : Waits capacity handlers r arrivals s)
    (acknowledged : Acknowledged (arrivals ++ later))
    (mem : alarm ∈ s.dispatcher.timeline.alarms)
    (soon : alarm.due ≤ s.dispatcher.timeline.now + n * Timeline.longestStep) :
    ∃ pauses, Waits capacity handlers r arrivals (s.pass stamp pauses) ∧
      (s.pass stamp pauses).work < s.work := by
  have target := s.dispatcher.timeline.target_longestStep
  have advanced := waits.advance stamp acknowledged Timeline.longestStep
  induction n generalizing s with
  | zero =>
    cases taken : s.dispatcher.timeline.take?
        (s.dispatcher.timeline.target Timeline.longestStep) with
    | some p => exact ⟨[_], advanced, waits.advance_less acknowledged taken⟩
    | none =>
      have far := Timeline.take?_eq_none taken alarm mem
      omega
  | succ n ih =>
    cases taken : s.dispatcher.timeline.take?
        (s.dispatcher.timeline.target Timeline.longestStep) with
    | some p => exact ⟨[_], advanced, waits.advance_less acknowledged taken⟩
    | none =>
      -- Nothing is due yet, so only the clock moves.
      have moved : s.advance stamp Timeline.longestStep =
          s.moveTo (s.dispatcher.timeline.target Timeline.longestStep) := by
        rw [Runner.advance, fireUpTo_of_none taken]
        rfl
      rw [moved] at advanced
      have soon' : alarm.due ≤ max s.dispatcher.timeline.now (s.dispatcher.timeline.target
          Timeline.longestStep) + n * Timeline.longestStep := by
        rw [Nat.succ_mul] at soon
        omega
      obtain ⟨pauses, waits', less⟩ := ih advanced mem soon'
        (Timeline.target_longestStep _)
        (advanced.advance stamp acknowledged Timeline.longestStep)
      rw [← moved] at waits' less
      exact ⟨Timeline.longestStep :: pauses, waits', Nat.lt_of_lt_of_eq less (moved ▸ rfl)⟩

/-- After the end of the connection, a run that is waited for returns. -/
theorem Waits.returns (stamp : Stamp) (waits : Waits capacity handlers r arrivals s)
    (acknowledged : Acknowledged (arrivals ++ later)) (down : goesOn arrivals = false) :
    ∃ pauses, Waits capacity handlers r arrivals (s.pass stamp pauses) ∧
      ∃ result, (s.pass stamp pauses).result? = some result := by
  induction work : s.work using Nat.strong_induction_on generalizing s with
  | _ w ih =>
    rcases waits.over_or_next acknowledged down with over_ | ⟨alarm, timeline, next⟩
    · exact ⟨[], waits, over_⟩
    · obtain ⟨due, perm, -, -⟩ := Timeline.takeNext?_eq_some next
      have mem : ⟨due, alarm⟩ ∈ s.dispatcher.timeline.alarms :=
        perm.mem_iff.2 List.mem_cons_self
      have positive : 0 < Timeline.longestStep := by decide
      have soon : due ≤ s.dispatcher.timeline.now + due * Timeline.longestStep :=
        (Nat.le_mul_of_pos_right due positive).trans (Nat.le_add_left _ _)
      obtain ⟨pauses, waits', less⟩ := waits.passes stamp acknowledged mem soon
      obtain ⟨more, waits'', result⟩ := ih _ (work ▸ less) waits' rfl
      have all : s.pass stamp (pauses ++ more) = (s.pass stamp pauses).pass stamp more :=
        List.foldl_append
      exact ⟨pauses ++ more, all ▸ waits'', all ▸ result⟩

/-- A run begins with its call for events. -/
theorem start_eq (automations : Automations) :
    start stamp (.start capacity none) automations =
      ⟨.asking capacity [], automations, 0, .subscribing⟩ := by
  have called := Session.settle_call capacity
  show resume stamp ⟨((Session.start capacity none).call (.listen .typed stateChanged)).settle,
    automations, 0, .subscribing⟩ = _
  rw [called]
  rfl

/-- It makes no difference to a run whether callbacks fail. -/
theorem occurAll_unfailing (r : Runner) (os : List Occurrence) :
    r.unfailing.occurAll os = (r.occurAll os).unfailing := by
  induction os generalizing r with
  | nil => rfl
  | cons o rest ih =>
    have first : r.unfailing.occur o = (r.occur o).unfailing := by
      cases o with
      | message a => exact deliver_unfailing a.stamp r [a.item]
      | pause stamp milliseconds => exact advance_unfailing stamp r milliseconds
    show occurAll (r.unfailing.occur o) rest = _
    rw [first, ih]
    rfl

/-- A run dispatches each state change of its stream once, in the order of their
arrival, and returns how many there were and how many evaluations failed. This is
so for whatever automations at rest and however messages, alarms and steps follow
one another, if the hub acknowledges the call for events, always leaves room in
the stream and ends the connection in the end. If one waits for the callbacks, the
run does return. Whether they fail makes no difference to what it returns and
when. -/
theorem run_counts {stamp : Stamp} {capacity : Nat} {automations : Automations}
    {early : List Incoming} {os : List Occurrence} (rests : automations.dispatcher.Rests)
    (up : ∀ m ∈ early, m.isEnd = false) (acknowledged : Acknowledged (Occurrence.arrivals os))
    (ends : goesOn (Occurrence.arrivals os) = false)
    (room : (start stamp ((Session.start capacity none).deliver stamp early)
      automations).HasRoom capacity os) :
    let session := (Session.start capacity none).deliver stamp early
    let r := start stamp session automations
    let handlers := automations.dispatcher.handlers
    (∀ {log s result}, Goes capacity r (Occurrence.arrivals os) log s → s.result? = some result →
      log.Forall₂ BegunDispatch.IsOf (changesIn (routedEvents (Occurrence.arrivals os))) ∧
        result = .ok ⟨log.length, (log.map (BegunDispatch.failures handlers)).sum⟩) ∧
    (∀ stamp, ∃ pauses log,
      Goes capacity r (Occurrence.arrivals os) log ((r.occurAll os).pass stamp pauses) ∧
        ((r.occurAll os).pass stamp pauses).result? =
          some (.ok ⟨log.length, (log.map (BegunDispatch.failures handlers)).sum⟩)) ∧
    ∀ os', ((start stamp session automations.unfailing).occurAll os').result? =
      (r.occurAll os').result? := by
  intro session r handlers
  have begun : r = ⟨.asking capacity [], automations, 0, .subscribing⟩ := by
    show start stamp ((Session.start capacity none).deliver stamp early) automations = _
    rw [Session.deliver_start up, start_eq]
  have starts : Progress capacity handlers [] [] r := by
    rw [begun]
    exact .asking rfl rfl (Nat.zero_le _) rests rfl
  have acknowledged' : Acknowledged (Occurrence.arrivals os ++ []) := by
    rwa [List.append_nil]
  -- Whatever way the run went, it returned with the count of what it went through.
  have counts {log : List BegunDispatch} {s : Runner} {result : ClientResult RunSummary}
      (goes : Goes capacity r (Occurrence.arrivals os) log s)
      (returned : s.result? = some result) :
      log.Forall₂ BegunDispatch.IsOf (changesIn (routedEvents (Occurrence.arrivals os))) ∧
        result = .ok ⟨log.length, (log.map (BegunDispatch.failures handlers)).sum⟩ := by
    cases goes.progress starts acknowledged' with
    | asking | answered | feeding | dispatching => cases returned
    | returned down logged => exact ⟨logged, (Option.some.inj returned).symm⟩
  refine ⟨counts, fun stamp' => ?_, fun os' => ?_⟩
  -- With pauses that are long enough, it does return.
  · have still : r.step? stamp = none := begun ▸ rfl
    have waits : Waits capacity handlers r [] r := ⟨starts, ⟨[], .start⟩, stamp, still⟩
    obtain ⟨pauses, waits', result, returned⟩ :=
      (waits.occurAll acknowledged room).returns stamp' acknowledged' ends
    obtain ⟨log, goes⟩ := waits'.goes
    exact ⟨pauses, log, goes, (counts goes returned).2 ▸ returned⟩
  · rw [start_unfailing, occurAll_unfailing]
    rfl

/-- The connection of a run ends while a callback sleeps that fails later, with an
event and some nonsense unread. -/
theorem run_counts_buffered :
    let stamp : Stamp := ⟨⟨⟨2024, 1, 1⟩, 0, 0, 0, 0⟩, 0⟩
    let sent (s : String) : Occurrence := .message ⟨stamp, .text s⟩
    let torn := TriggerHandler.ofRules ⟨[], [], [.ofCondition .always]⟩ 1000 .logState
    let slow := TriggerHandler.ofRules .empty 0
      (.script ⟨"slow", none, none, some 5, .failure "broken"⟩)
    let automations := ((Automations.new 0).put "torn" torn).put "slow" slow
    let os := [sent "[\"result\",1,true]",
      sent "[\"event\",1,[\"state_changed\",[\"lamp.one\",null,null]]]", .pause stamp 2,
      sent "[\"event\",1,[\"state_changed\",[\"lamp.two\",null,null]]]",
      sent "[\"event\",1,[\"state_changed\",0]]", .message ⟨stamp, .ended⟩]
    let r := start stamp ((Session.start 2 none).deliver stamp [.ping]) automations
    (r.occurAll os).result?.isNone ∧
      ∃ pauses n, ((r.occurAll os).pass stamp pauses).result? = some (.ok ⟨2, n⟩) := by
  intro stamp sent torn slow automations os r
  have rests : automations.dispatcher.Rests :=
    ((Dispatcher.rests_new 0).put "torn" torn).put "slow" slow
  have up : ∀ m ∈ [Incoming.ping], m.isEnd = false := by simp [Incoming.isEnd]
  have acknowledged : Acknowledged (Occurrence.arrivals os) := by decide +kernel
  have ends : goesOn (Occurrence.arrivals os) = false := by decide +kernel
  have room : r.HasRoom 2 os := by decide +kernel
  have two : (changesIn (routedEvents (Occurrence.arrivals os))).length = 2 := by
    decide +kernel
  obtain ⟨counts, returns, -⟩ := run_counts rests up acknowledged ends room
  obtain ⟨pauses, log, goes, returned⟩ := returns stamp
  obtain ⟨logged, -⟩ := counts goes returned
  have length : log.length = 2 := logged.length_eq.trans two
  rw [length] at returned
  exact ⟨by decide +kernel, pauses, _, returned⟩

end Runner

end HubAutomation
