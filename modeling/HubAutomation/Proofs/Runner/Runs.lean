import HubAutomation.Proofs.Runner.Changes
import HubAutomation.Proofs.Runner.Evaluations
import HubAutomation.Proofs.Runner.Feeds

/-!
# What a run dispatches and counts

A run goes on while messages of the hub arrive, alarms go off and time passes,
in any order. It dispatches the state changes that the hub sends to its stream,
each one once and in the order of their arrival, and counts the dispatches and
the evaluations that fail.

- `Arrival`: a message of the hub. `routedEvents`, `firstAnswer?`: what the hub
  sends to the stream, and what it answers to the call for events, before it ends
  the connection.
- `BegunDispatch.IsOf`: the dispatch of an event.
- `Runner.Goes`: how a run goes on, and the dispatches that it begins.
- `Runner.Progress`: how far a run is, by what the hub has sent.
-/

namespace HubAutomation

/-! ### What the hub sends -/

/-- A message of the hub, and the stamp that it is read with. -/
structure Arrival where
  stamp : Stamp
  item : Incoming

namespace Arrival

def isEnd (a : Arrival) : Bool := a.item.isEnd

def answer? (a : Arrival) : Option (ClientResult Json) := a.item.answer? a.stamp

def routed? (a : Arrival) : Option (Event Json) := a.item.routed? a.stamp

end Arrival

/-- Whether the hub has not ended the connection. -/
def goesOn (arrivals : List Arrival) : Bool := arrivals.all fun a => !a.isEnd

/-- What the hub sends before it ends the connection. -/
def beforeEnd (arrivals : List Arrival) : List Arrival := arrivals.takeWhile fun a => !a.isEnd

/-- The events that go to the stream of state changes. -/
def routedEvents (arrivals : List Arrival) : List (Event Json) :=
  (beforeEnd arrivals).filterMap Arrival.routed?

/-- The answer to the call for events. -/
def firstAnswer? (arrivals : List Arrival) : Option (ClientResult Json) :=
  (beforeEnd arrivals).findSome? Arrival.answer?

/-- The hub answers the call for events, and it answers that all is well. -/
def Acknowledged (arrivals : List Arrival) : Prop :=
  ∃ value, firstAnswer? arrivals = some (.ok value)

variable {arrivals later : List Arrival} {a : Arrival}

theorem acknowledged_iff :
    Acknowledged arrivals ↔ ((firstAnswer? arrivals).any fun r => r.isOk) = true := by
  rw [Acknowledged]
  rcases firstAnswer? arrivals with _ | _ | value <;> simp [Except.isOk, Except.toBool]

instance : Decidable (Acknowledged arrivals) := decidable_of_iff _ acknowledged_iff.symm

theorem beforeEnd_append (arrivals later : List Arrival) :
    beforeEnd (arrivals ++ later) =
      beforeEnd arrivals ++ if goesOn arrivals then beforeEnd later else [] := by
  induction arrivals with
  | nil => rfl
  | cons a rest ih =>
    cases isLast : a.isEnd with
    | true => simp [beforeEnd, goesOn, isLast]
    | false =>
      have first (l : List Arrival) : beforeEnd (a :: l) = a :: beforeEnd l := by
        simp [beforeEnd, isLast]
      have on : goesOn (a :: rest) = goesOn rest := by simp [goesOn, isLast]
      rw [List.cons_append, first, first, on, ih, List.cons_append]

theorem goesOn_concat (arrivals : List Arrival) (a : Arrival) :
    goesOn (arrivals ++ [a]) = (goesOn arrivals && !a.isEnd) := by
  simp [goesOn]

namespace Incoming

variable {stamp : Stamp} {item : Incoming}

/-- A message that ends the connection brings nothing else. -/
theorem frame?_of_isEnd (isLast : item.isEnd = true) : item.frame? stamp = none := by
  cases item with
  | text | binary | ping => cases isLast
  | close | fault | ended => rfl

theorem routed?_of_isEnd (isLast : item.isEnd = true) : item.routed? stamp = none := by
  rw [routed?, frame?_of_isEnd isLast]
  rfl

/-- An answer is no event. -/
theorem routed?_of_answer {answer : ClientResult Json}
    (answers : item.answer? stamp = some answer) : item.routed? stamp = none := by
  obtain ⟨frame, brings, answers⟩ := Option.bind_eq_some_iff.1 answers
  rw [routed?, brings]
  cases frame with
  | event => cases answers
  | result | pong | authRequired | authOk | authInvalid | unknown => rfl

end Incoming

theorem routedEvents_concat (arrivals : List Arrival) (a : Arrival) :
    routedEvents (arrivals ++ [a]) =
      routedEvents arrivals ++ if goesOn arrivals then a.routed?.toList else [] := by
  rw [routedEvents, beforeEnd_append, List.filterMap_append]
  refine congrArg (_ ++ ·) ?_
  cases goesOn arrivals with
  | false => rfl
  | true =>
    cases isLast : a.isEnd with
    | true =>
      have nothing : a.routed? = none := Incoming.routed?_of_isEnd isLast
      simp [beforeEnd, isLast, nothing]
    | false => cases sent : a.routed? <;> simp [beforeEnd, isLast, sent]

theorem firstAnswer?_append (arrivals later : List Arrival) :
    firstAnswer? (arrivals ++ later) =
      (firstAnswer? arrivals).or (if goesOn arrivals then firstAnswer? later else none) := by
  rw [firstAnswer?, beforeEnd_append, List.findSome?_append]
  refine congrArg ((firstAnswer? arrivals).or ·) ?_
  cases goesOn arrivals <;> rfl

/-! ### Dispatches -/

/-- The dispatch of an event, which is read with some stamp. -/
def BegunDispatch.IsOf (b : BegunDispatch) (e : Event Json) : Prop :=
  ∃ stamp, e.typed stamp = .ok b.event

namespace Session

variable {stamp : Stamp} {events : List (Event Json)} {capacity next : Nat}

/-- The call for events has given a listener, on a connection that is up or down. -/
def attached (capacity : Nat) (events : List (Event Json)) (next : Nat) : Bool → Session
  | true => listening capacity events next
  | false => ended capacity events next

/-- The events that a message brings to the stream of state changes. -/
def arriving (s : Session) (a : Arrival) : List (Event Json) :=
  if s.connection.reading then a.routed?.toList else []

theorem arriving_attached (up : Bool) : (attached capacity events next up).arriving a =
    if up then a.routed?.toList else [] := by
  cases up <;> rfl

theorem deliver_attached (up : Bool) :
    (attached capacity events next up).deliver a.stamp [a.item] =
      attached capacity (events ++ (attached capacity events next up).arriving a) next
        (up && !a.isEnd) := by
  rw [arriving_attached]
  cases up with
  | false =>
    refine deliver_ended.trans ?_
    simp [attached]
  | true =>
    cases isLast : a.isEnd with
    | true =>
      have nothing : a.routed? = none := Incoming.routed?_of_isEnd isLast
      refine (deliver_end isLast).trans ?_
      simp [attached, nothing]
    | false => exact deliver_listening isLast

theorem listener?_attached (up : Bool) : (attached capacity events next up).listener? 0 =
    some ⟨0, .typed, ⟨0, next⟩, true, []⟩ := by
  cases up <;> rfl

/-- The stream of state changes. -/
def stream (capacity : Nat) (events : List (Event Json)) (up : Bool) : Channel :=
  ⟨Channel.windowFor capacity, events, 1, !up⟩

theorem receiveChange_attached (stamp : Stamp) (capacity : Nat) (events : List (Event Json))
    (next : Nat) (up : Bool) :
    (attached capacity events next up).receiveChange stamp ⟨0, .typed, ⟨0, next⟩, true, []⟩ =
      (((stream capacity events up).receiveChange stamp (events.length + 1) next).1,
        attached capacity events
          ((stream capacity events up).receiveChange stamp (events.length + 1) next).2 up) := by
  cases up <;> rfl

end Session

/-- What a run has counted when it has seen some dispatches through. -/
def tally (handlers : List TriggerHandler) (log : List BegunDispatch) : RunSummary :=
  ⟨log.length, (log.map (BegunDispatch.failures handlers)).sum⟩

theorem tally_concat {handlers : List TriggerHandler} {b : BegunDispatch} {report : DispatchReport}
    (log : List BegunDispatch) (counted : report.failed.length = b.failures handlers) :
    (tally handlers log).add report = tally handlers (log ++ [b]) := by
  simp [tally, RunSummary.add, counted]

namespace Runner

/-! ### How a run goes on -/

/-- The events that wait for the run. Where it waits itself, it has seen all. -/
def backlog (stamp : Stamp) (r : Runner) : Nat :=
  match r.run with
  | .subscribing => (r.session.connection.subscriptions.channelOf ⟨0, 0⟩).events.length
  | .feeding _ => if (r.step? stamp).isSome then r.unread else 0
  | .dispatching _ => r.unread
  | .over _ => 0

/-- The stream has room for what a message brings. -/
def Fits (capacity : Nat) (r : Runner) (a : Arrival) : Prop :=
  r.backlog a.stamp + (r.session.arriving a).length ≤ Channel.windowFor capacity

instance (capacity : Nat) (r : Runner) (a : Arrival) : Decidable (Fits capacity r a) :=
  inferInstanceAs (Decidable (_ ≤ _))

/-- There is room for as many events as the capacity says. -/
theorem fits_of_le {capacity : Nat} {r : Runner}
    (le : r.backlog a.stamp + (r.session.arriving a).length ≤ capacity) : r.Fits capacity a :=
  le.trans (Channel.le_windowFor capacity)

/-- The dispatch that the next step of the run begins. -/
def begins? (stamp : Stamp) (r : Runner) : Option BegunDispatch :=
  match r.run with
  | .feeding _ =>
    ((r.session.listener? r.call).bind fun l => (r.session.receiveChange stamp l).1.event?).map
      fun change => ⟨change, r.dispatcher.set.attachments⟩
  | _ => none

/-- An alarm goes off. -/
def ring (r : Runner) (alarm : HandlerAlarm) (timeline : Timeline HandlerAlarm) : Runner :=
  r.setDispatcher ({ r.dispatcher with timeline }.fire alarm)

/-- The clock moves. -/
def moveTo (r : Runner) (now : Nat) : Runner :=
  r.setDispatcher { r.dispatcher with timeline := r.dispatcher.timeline.moveTo now }

/-- A run goes on from `r`: the hub has sent `arrivals` and the run has begun the
dispatches `log`, with alarms that went off and time that passed in between. -/
inductive Goes (capacity : Nat) (r : Runner) :
    List Arrival → List BegunDispatch → Runner → Prop
  | start : Goes capacity r [] [] r
  | message {arrivals : List Arrival} {log : List BegunDispatch} {s : Runner} {a : Arrival}
      (goes : Goes capacity r arrivals log s) (fits : s.Fits capacity a) :
      Goes capacity r (arrivals ++ [a]) log
        { s with session := s.session.deliver a.stamp [a.item] }
  | step {arrivals : List Arrival} {log : List BegunDispatch} {s s' : Runner} {stamp : Stamp}
      (goes : Goes capacity r arrivals log s) (step : s.step? stamp = some s') :
      Goes capacity r arrivals (log ++ (s.begins? stamp).toList) s'
  | alarm {arrivals : List Arrival} {log : List BegunDispatch} {s : Runner}
      {alarm : HandlerAlarm} {timeline : Timeline HandlerAlarm}
      (goes : Goes capacity r arrivals log s)
      (next : s.dispatcher.timeline.takeNext? = some (alarm, timeline)) :
      Goes capacity r arrivals log (s.ring alarm timeline)
  | wait {arrivals : List Arrival} {log : List BegunDispatch} {s : Runner}
      (goes : Goes capacity r arrivals log s) (now : Nat) :
      Goes capacity r arrivals log (s.moveTo now)

/-! ### How far a run is -/

/-- How far a run of some handlers is when the hub has sent `arrivals` and the
dispatches `log` were begun. -/
inductive Progress (capacity : Nat) (handlers : List TriggerHandler) (arrivals : List Arrival) :
    List BegunDispatch → Runner → Prop
  | asking {automations : Automations} (goesOn : goesOn arrivals = true)
      (unanswered : firstAnswer? arrivals = none)
      (room : (routedEvents arrivals).length ≤ Channel.windowFor capacity)
      (rests : automations.dispatcher.Rests)
      (same : automations.dispatcher.handlers.map TriggerHandler.ruling =
        handlers.map TriggerHandler.ruling) :
      Progress capacity handlers arrivals []
        ⟨.asking capacity (routedEvents arrivals), automations, 0, .subscribing⟩
  | answered {automations : Automations}
      (room : (routedEvents arrivals).length ≤ Channel.windowFor capacity)
      (rests : automations.dispatcher.Rests)
      (same : automations.dispatcher.handlers.map TriggerHandler.ruling =
        handlers.map TriggerHandler.ruling) :
      Progress capacity handlers arrivals []
        ⟨.attached capacity (routedEvents arrivals) 0 (goesOn arrivals), automations, 0,
          .subscribing⟩
  | feeding {automations : Automations} {log : List BegunDispatch} {next : Nat}
      (le : next ≤ (routedEvents arrivals).length)
      (lossless : (Session.stream capacity (routedEvents arrivals) (goesOn arrivals)).Lossless next)
      (logged : log.Forall₂ BegunDispatch.IsOf (changesIn ((routedEvents arrivals).take next)))
      (rests : automations.dispatcher.Rests)
      (same : automations.dispatcher.handlers.map TriggerHandler.ruling =
        handlers.map TriggerHandler.ruling) :
      Progress capacity handlers arrivals log
        ⟨.attached capacity (routedEvents arrivals) next (goesOn arrivals), automations, 0,
          .feeding (tally handlers log)⟩
  | dispatching {automations : Automations} {log : List BegunDispatch} {b : BegunDispatch}
      {next : Nat} (le : next ≤ (routedEvents arrivals).length)
      (room : (routedEvents arrivals).length ≤ next + Channel.windowFor capacity)
      (logged : (log ++ [b]).Forall₂ BegunDispatch.IsOf
        (changesIn ((routedEvents arrivals).take next)))
      (evaluates : automations.dispatcher.Evaluates handlers b)
      (same : automations.dispatcher.handlers.map TriggerHandler.ruling =
        handlers.map TriggerHandler.ruling) :
      Progress capacity handlers arrivals (log ++ [b])
        ⟨.attached capacity (routedEvents arrivals) next (goesOn arrivals), automations, 0,
          .dispatching (tally handlers log)⟩
  | returned {automations : Automations} {log : List BegunDispatch} {next : Nat}
      (down : goesOn arrivals = false)
      (logged : log.Forall₂ BegunDispatch.IsOf (changesIn (routedEvents arrivals))) :
      Progress capacity handlers arrivals log
        ⟨.attached capacity (routedEvents arrivals) next false, automations, 0,
          .over (.ok (tally handlers log))⟩

variable {stamp : Stamp} {events : List (Event Json)} {capacity next : Nat}
  {handlers : List TriggerHandler} {log : List BegunDispatch} {automations : Automations}
  {summary : RunSummary} {r s s' : Runner}

/-! ### Steps of the run -/

theorem unread_attached (capacity : Nat) (events : List (Event Json)) (next : Nat) (up : Bool)
    (automations : Automations) (run : Run) :
    unread ⟨.attached capacity events next up, automations, 0, run⟩ = events.length - next := by
  cases up <;> rfl

/-- The run waits for the next event. -/
def fed (capacity : Nat) (events : List (Event Json)) (next : Nat) (up : Bool)
    (automations : Automations) (summary : RunSummary) : Runner :=
  ⟨.attached capacity events next up, automations, 0, .feeding summary⟩

/-- The next state change among events of which the first ones are read: `e`, read
as `change`, with which the events before `next'` are read. -/
structure NextChange (stamp : Stamp) (capacity : Nat) (events : List (Event Json)) (next : Nat)
    (e : Event Json) (change : Event StateChange) (next' : Nat) : Prop where
  read : e.typed stamp = .ok change
  later : next < next'
  le : next' ≤ events.length
  room : events.length ≤ next' + Channel.windowFor capacity
  found : changesIn (events.take next') = changesIn (events.take next) ++ [e]

/-- What a run can do that waits for the next event: it dispatches the next state
change, or there is none, and it is over where the stream has ended. -/
theorem fed_cases {up : Bool} (stamp : Stamp) (automations : Automations) (summary : RunSummary)
    (lossless : (Session.stream capacity events up).Lossless next) :
    (∃ e change next', NextChange stamp capacity events next e change next' ∧
      (fed capacity events next up automations summary).begins? stamp =
        some ⟨change, automations.dispatcher.set.attachments⟩ ∧
      (fed capacity events next up automations summary).step? stamp =
        some (setDispatcher
          ⟨.attached capacity events next' up, automations, 0, .dispatching summary⟩
          (automations.dispatcher.begin .run change))) ∨
    (changesIn events = changesIn (events.take next) ∧
      (fed capacity events next up automations summary).begins? stamp = none ∧
      ∃ next', next ≤ next' ∧ (fed capacity events next up automations summary).step? stamp =
        if up then none
        else some ⟨.attached capacity events next' up, automations, 0, .over (.ok summary)⟩) := by
  have enough : events.length - next < events.length + 1 := Nat.lt_succ_of_le (Nat.sub_le _ _)
  have reads := Channel.receiveChange_reads stamp lossless enough
  have received := Session.receiveChange_attached stamp capacity events next up
  generalize (Session.stream capacity events up).receiveChange stamp (events.length + 1) next =
    result at reads received
  cases reads with
  | @change e change next' later le keeps found read =>
    refine .inl ⟨e, change, next', ⟨read, later, le, Nat.sub_le_iff_le_add.1 keeps, found⟩, ?_, ?_⟩
    · simp [fed, begins?, Session.listener?_attached, received, Received.event?, dispatcher]
    · simp [fed, step?, Session.listener?_attached, received, dispatcher]
  | @rest next' later nothing =>
    refine .inr ⟨nothing, ?_, next', later, ?_⟩
    · cases up <;> simp [fed, begins?, Session.listener?_attached, received, Received.event?,
        Session.stream]
    · cases up <;> simp [fed, step?, Session.listener?_attached, received, Session.stream]

/-- The step of a run that waits for the next event. -/
theorem fed_step {up : Bool} (lossless : (Session.stream capacity events up).Lossless next)
    (step : (fed capacity events next up automations summary).step? stamp = some s') :
    (∃ e change next', NextChange stamp capacity events next e change next' ∧
      (fed capacity events next up automations summary).begins? stamp =
        some ⟨change, automations.dispatcher.set.attachments⟩ ∧
      s' = setDispatcher ⟨.attached capacity events next' up, automations, 0, .dispatching summary⟩
        (automations.dispatcher.begin .run change)) ∨
    (up = false ∧ changesIn events = changesIn (events.take next) ∧
      (fed capacity events next up automations summary).begins? stamp = none ∧
      ∃ next', next ≤ next' ∧
        s' = ⟨.attached capacity events next' false, automations, 0, .over (.ok summary)⟩) := by
  rcases fed_cases stamp automations summary lossless with
    ⟨e, change, next', nextChange, begins, goes⟩ | ⟨nothing, begins, next', later, goes⟩
  · refine .inl ⟨e, change, next', nextChange, begins, ?_⟩
    exact Option.some.inj (step.symm.trans goes)
  · cases up with
    | true => cases step.symm.trans goes
    | false =>
      exact .inr ⟨rfl, nothing, begins, next', later, Option.some.inj (step.symm.trans goes)⟩

/-- The step of a run whose call for events was answered. -/
theorem step?_answered (capacity : Nat) (events : List (Event Json)) (up : Bool)
    (automations : Automations) :
    step? stamp ⟨.attached capacity events 0 up, automations, 0, .subscribing⟩ =
      some (fed capacity events 0 up automations .empty) := by
  cases up <;> rfl

/-! ### Messages of the hub -/

theorem routedEvents_arriving (capacity next : Nat) (arrivals : List Arrival) (a : Arrival) :
    routedEvents (arrivals ++ [a]) = routedEvents arrivals ++
      (Session.attached capacity (routedEvents arrivals) next (goesOn arrivals)).arriving a := by
  rw [routedEvents_concat, Session.arriving_attached]

theorem deliver_concat (capacity next : Nat) (arrivals : List Arrival) (a : Arrival) :
    (Session.attached capacity (routedEvents arrivals) next (goesOn arrivals)).deliver a.stamp
        [a.item] =
      .attached capacity (routedEvents (arrivals ++ [a])) next (goesOn (arrivals ++ [a])) := by
  rw [Session.deliver_attached, goesOn_concat, ← routedEvents_arriving]

/-- No state change is lost where there is room for what the run has not read, or
it has nothing left to read. -/
theorem lossless_append {new : List (Event Json)} (up : Bool) (le : next ≤ events.length)
    (room : events.length - next + new.length ≤ Channel.windowFor capacity ∨
      changesIn events = changesIn (events.take next) ∧
        new.length ≤ Channel.windowFor capacity) :
    (Session.stream capacity (events ++ new) up).Lossless next := by
  have oldest : (Session.stream capacity (events ++ new) up).oldest =
      events.length + new.length - Channel.windowFor capacity := by
    rw [← List.length_append]
    rfl
  rcases room with room | ⟨nothing, room⟩
  · exact Channel.lossless_of_le (by omega)
  · have upTo : max next (Session.stream capacity (events ++ new) up).oldest ≤ events.length := by
      omega
    show changesIn ((events ++ new).take _) = changesIn ((events ++ new).take next)
    rw [List.take_append_of_le_length upTo, List.take_append_of_le_length le]
    exact changesIn_take_of_rest (Nat.le_max_left _ _) nothing

/-- A message that comes before the answer to the call for events leaves the call
where it is, or is that answer. -/
theorem deliver_unanswered (capacity : Nat) (on : goesOn arrivals = true)
    (unanswered : firstAnswer? arrivals = none)
    (acknowledged : Acknowledged (arrivals ++ a :: later)) :
    goesOn (arrivals ++ [a]) = true ∧
    (firstAnswer? (arrivals ++ [a]) = none ∧
      (Session.asking capacity (routedEvents arrivals)).deliver a.stamp [a.item] =
        .asking capacity (routedEvents (arrivals ++ [a])) ∨
      (Session.asking capacity (routedEvents arrivals)).deliver a.stamp [a.item] =
        .attached capacity (routedEvents (arrivals ++ [a])) 0 true) := by
  obtain ⟨value, acknowledged⟩ := acknowledged
  rw [firstAnswer?_append, unanswered, on, if_pos rfl, Option.none_or] at acknowledged
  have goes : a.isEnd = false := by
    by_contra isLast
    have nothing : beforeEnd (a :: later) = [] := by simp_all [beforeEnd]
    rw [firstAnswer?, nothing] at acknowledged
    cases acknowledged
  have first (rest : List Arrival) : firstAnswer? (a :: rest) =
      a.answer?.or (firstAnswer? rest) := by
    cases answer : a.answer? <;> simp [firstAnswer?, beforeEnd, goes, answer]
  have events : routedEvents (arrivals ++ [a]) = routedEvents arrivals ++ a.routed?.toList := by
    rw [routedEvents_concat, on, if_pos rfl]
  refine ⟨by rw [goesOn_concat, on, goes]; rfl, ?_⟩
  rw [events]
  cases answer : a.answer? with
  | none =>
    refine .inl ⟨?_, Session.deliver_asking goes answer⟩
    rw [firstAnswer?_append, unanswered, on, if_pos rfl, Option.none_or, first, answer]
    rfl
  | some result =>
    rw [first, answer, Option.some_or] at acknowledged
    obtain rfl := Option.some.inj acknowledged
    have noEvent : a.routed? = none := Incoming.routed?_of_answer answer
    rw [noEvent, Option.toList_none, List.append_nil]
    exact .inr (Session.deliver_answer answer)

/-- A run that waits for the next event loses none to a message that fits. -/
theorem lossless_of_fits (le : next ≤ (routedEvents arrivals).length)
    (lossless : (Session.stream capacity (routedEvents arrivals) (goesOn arrivals)).Lossless next)
    (fits : (fed capacity (routedEvents arrivals) next (goesOn arrivals) automations
      summary).Fits capacity a) :
    (Session.stream capacity (routedEvents (arrivals ++ [a]))
      (goesOn (arrivals ++ [a]))).Lossless next := by
  rw [routedEvents_arriving]
  refine lossless_append _ le ?_
  have waiting : backlog a.stamp
      (fed capacity (routedEvents arrivals) next (goesOn arrivals) automations summary) =
      if ((fed capacity (routedEvents arrivals) next (goesOn arrivals) automations
        summary).step? a.stamp).isSome then (routedEvents arrivals).length - next else 0 := by
    rw [← unread_attached capacity _ next (goesOn arrivals) automations (.feeding summary)]
    rfl
  rw [Fits, waiting] at fits
  rcases fed_cases a.stamp automations summary lossless with
    ⟨e, change, next', -, -, step⟩ | ⟨nothing, -, next', -, step⟩
  · rw [step] at fits
    exact .inl fits
  · refine .inr ⟨nothing, ?_⟩
    exact (Nat.le_add_left _ _).trans fits

theorem Progress.deliver (progress : Progress capacity handlers arrivals log s)
    (fits : s.Fits capacity a)
    (acknowledged : Acknowledged (arrivals ++ a :: later)) :
    Progress capacity handlers (arrivals ++ [a]) log
      { s with session := s.session.deliver a.stamp [a.item] } := by
  have more (next : Nat) := routedEvents_arriving capacity next arrivals a
  have longer : (routedEvents arrivals).length ≤
      (routedEvents (arrivals ++ [a])).length := by
    rw [routedEvents_concat, List.length_append]
    exact Nat.le_add_right _ _
  have read {next : Nat} (le : next ≤ (routedEvents arrivals).length) :
      (routedEvents (arrivals ++ [a])).take next = (routedEvents arrivals).take next := by
    rw [routedEvents_concat, List.take_append_of_le_length le]
  -- One case for each stage. Before the answer the channel must not lose anything,
  -- since nobody reads; later the reader makes room.
  cases progress with
  | asking on unanswered room rests same =>
    have room' : (routedEvents (arrivals ++ [a])).length ≤ Channel.windowFor capacity := by
      rw [routedEvents_concat, on, List.length_append]
      exact fits
    obtain ⟨on', ⟨still, delivered⟩ | delivered⟩ :=
      deliver_unanswered capacity on unanswered acknowledged
    · dsimp only
      rw [delivered]
      exact .asking on' still room' rests same
    · dsimp only
      rw [delivered, ← on']
      exact .answered room' rests same
  | @answered automations room rests same =>
    have waiting : backlog a.stamp ⟨.attached capacity (routedEvents arrivals) 0 (goesOn arrivals),
        automations, 0, .subscribing⟩ = (routedEvents arrivals).length := by
      cases goesOn arrivals <;> rfl
    rw [Fits, waiting, ← List.length_append, ← more 0] at fits
    dsimp only
    rw [deliver_concat]
    exact .answered fits rests same
  | feeding le lossless logged rests same =>
    dsimp only
    rw [deliver_concat]
    exact .feeding (le.trans longer) (lossless_of_fits le lossless fits) (by rwa [read le]) rests
      same
  | @dispatching automations log b next le room logged evaluates same =>
    have waiting : backlog a.stamp
        ⟨.attached capacity (routedEvents arrivals) next (goesOn arrivals), automations, 0,
          .dispatching (tally handlers log)⟩ =
        (routedEvents arrivals).length - next := unread_attached _ _ _ _ _ _
    have room' : (routedEvents (arrivals ++ [a])).length ≤
        next + Channel.windowFor capacity := by
      rw [Fits, waiting] at fits
      rw [more next, List.length_append]
      dsimp only at fits
      omega
    dsimp only
    rw [deliver_concat]
    exact .dispatching (le.trans longer) room' (by rwa [read le]) evaluates same
  | @returned automations log next down logged =>
    -- After its end the hub says nothing that counts.
    have same : routedEvents (arrivals ++ [a]) = routedEvents arrivals := by
      rw [routedEvents_concat, down, if_neg Bool.false_ne_true, List.append_nil]
    have down' : goesOn (arrivals ++ [a]) = false := by rw [goesOn_concat, down, Bool.false_and]
    have delivered := deliver_concat capacity next arrivals a
    rw [down, down'] at delivered
    dsimp only
    rw [delivered]
    exact .returned down' (by rwa [same])

/-! ### Steps, alarms and time -/

theorem Progress.step (progress : Progress capacity handlers arrivals log s)
    (step : s.step? stamp = some s') :
    Progress capacity handlers arrivals (log ++ (s.begins? stamp).toList) s' := by
  -- A run that waits for the hub, or has returned, takes no step.
  cases progress with
  | asking => cases step
  | @answered automations room rests same =>
    obtain rfl := Option.some.inj ((step?_answered _ _ _ _).symm.trans step)
    have oldest : (Session.stream capacity (routedEvents arrivals) (goesOn arrivals)).oldest ≤ 0 :=
      Nat.le_of_eq (Nat.sub_eq_zero_of_le room)
    exact .feeding (Nat.zero_le _) (Channel.lossless_of_le oldest) .nil rests same
  | @feeding automations log next le lossless logged rests same =>
    rcases fed_step lossless step with
      ⟨e, change, next', ⟨read, -, le', room, found⟩, begins, rfl⟩ |
        ⟨down, nothing, begins, next', -, rfl⟩
    · have logged' :
          (log ++ [BegunDispatch.mk change automations.dispatcher.set.attachments]).Forall₂
            BegunDispatch.IsOf (changesIn ((routedEvents arrivals).take next')) := by
        rw [found]
        exact List.rel_append logged (.cons ⟨stamp, read⟩ .nil)
      have persists := Dispatcher.persists_proceed .run change
        automations.dispatcher.set.attachments .empty automations.dispatcher
      show Progress capacity handlers arrivals
        (log ++ (begins? stamp (fed _ _ _ _ _ _)).toList) _
      rw [begins]
      exact .dispatching le' room logged' (rests.evaluates_begin same change)
        (persists.rulings.trans same)
    · show Progress capacity handlers arrivals
        (log ++ (begins? stamp (fed _ _ _ _ _ _)).toList) _
      rw [begins, Option.toList_none, List.append_nil]
      exact .returned down (by rwa [nothing])
  | @dispatching automations log b next le room logged evaluates same =>
    obtain ⟨⟨report, d⟩, taken, rfl⟩ := Option.map_eq_some_iff.1 step
    obtain ⟨rests, counted⟩ := evaluates.collect taken
    have summed := tally_concat log counted
    have lossless : (Session.stream capacity (routedEvents arrivals) (goesOn arrivals)).Lossless
        next := Channel.lossless_of_le (Nat.sub_le_iff_le_add.2 room)
    have rulings : d.handlers.map TriggerHandler.ruling = handlers.map TriggerHandler.ruling := by
      rw [Dispatcher.eq_of_takeReport? taken]
      exact same
    show Progress capacity handlers arrivals (log ++ [b] ++ []) _
    rw [List.append_nil]
    show Progress capacity handlers arrivals (log ++ [b])
      ⟨_, { automations with dispatcher := d }, 0, .feeding ((tally handlers log).add report)⟩
    rw [summed]
    exact .feeding le lossless logged rests rulings
  | returned => cases step

theorem Progress.ring {alarm : HandlerAlarm} {timeline : Timeline HandlerAlarm}
    (progress : Progress capacity handlers arrivals log s)
    (next : s.dispatcher.timeline.takeNext? = some (alarm, timeline)) :
    Progress capacity handlers arrivals log (s.ring alarm timeline) := by
  have persists := Dispatcher.persists_fire { s.dispatcher with timeline } alarm
  cases progress with
  | asking on unanswered room rests same =>
    exact .asking on unanswered room (rests.fire next) (persists.rulings.trans same)
  | answered room rests same =>
    exact .answered room (rests.fire next) (persists.rulings.trans same)
  | feeding le lossless logged rests same =>
    exact .feeding le lossless logged (rests.fire next) (persists.rulings.trans same)
  | dispatching le room logged evaluates same =>
    exact .dispatching le room logged (evaluates.fire same next) (persists.rulings.trans same)
  | returned down logged => exact .returned down logged

theorem Progress.moveTo (progress : Progress capacity handlers arrivals log s) (now : Nat) :
    Progress capacity handlers arrivals log (s.moveTo now) := by
  cases progress with
  | asking on unanswered room rests same =>
    exact .asking on unanswered room (rests.congr rfl rfl) same
  | answered room rests same => exact .answered room (rests.congr rfl rfl) same
  | feeding le lossless logged rests same =>
    exact .feeding le lossless logged (rests.congr rfl rfl) same
  | dispatching le room logged evaluates same =>
    exact .dispatching le room logged (evaluates.congr rfl rfl) same
  | returned down logged => exact .returned down logged

/-- However a run goes on, it is as far as what the hub has sent says. -/
theorem Goes.progress (goes : Goes capacity r arrivals log s)
    (starts : Progress capacity handlers [] [] r)
    (acknowledged : Acknowledged (arrivals ++ later)) :
    Progress capacity handlers arrivals log s := by
  induction goes generalizing later with
  | start => exact starts
  | message _ fits ih =>
    rw [List.append_assoc] at acknowledged
    exact (ih acknowledged).deliver fits acknowledged
  | step _ step ih => exact (ih acknowledged).step step
  | alarm _ next ih => exact (ih acknowledged).ring next
  | wait _ now ih => exact (ih acknowledged).moveTo now

end Runner

end HubAutomation
