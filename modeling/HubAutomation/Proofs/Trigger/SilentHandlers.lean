import HubAutomation.Proofs.Trigger.GoneHandlers

/-!
# Handlers nothing begins for

No timer begins a delivery to a handler that is gone, and a dispatch does only
if it began before, as it comes to those that were in the set at its beginning.

- `Dispatcher.toCome`: the handlers that a dispatch has yet to come to.
- `Dispatcher.Silent`: a handler is gone, and no dispatch has it to come.
- `Step.begins`: where a delivery that begins comes from.
- `Dispatcher.TakenOut`: what is told of a handler after it was taken out.
-/

namespace HubAutomation

namespace Dispatcher

variable {d d' d'' : Dispatcher} {serial : Nat} {s t : Stage} {marks : List Mark}

/-! ### What is told of a handler that is gone -/

/-- The handlers that a dispatch has yet to come. -/
def toCome (s : Stage) : List Attachment :=
  (s.running.map Running.rest).getD [] ++ s.dispatcher.underWay.flatMap Dispatch.rest

/-- A handler is gone, and no dispatch has it yet to come. -/
structure Silent (s : Stage) (serial : Nat) : Prop where
  gone : s.dispatcher.Gone serial
  passed : ∀ a ∈ toCome s, a.serial ≠ serial

/-- A callback that begins is the only one that begins in its step. -/
theorem begins_startMarks {own : Nat} {callback : Callback} {event : Event StateChange}
    {origin origin' : DeliveryOrigin} {mark : Mark}
    (mem : mark ∈ d.startMarks origin own callback event) (begins : mark.Begins origin' serial) :
    origin' = origin ∧ serial = own := by
  obtain ⟨callback', time, event', rfl⟩ := begins
  rcases List.mem_cons.1 mem with e | mem
  · cases e
    exact ⟨rfl, rfl⟩
  · obtain ⟨id, -, mem⟩ := List.mem_flatMap.1 mem
    obtain ⟨a, -, e⟩ := List.mem_map.1 mem
    cases e

theorem begins_detachMarks {id : Nat} {origin : DeliveryOrigin} {mark : Mark}
    (mem : mark ∈ d.detachMarks id) : ¬ mark.Begins origin serial := by
  rintro ⟨callback, time, event, rfl⟩
  obtain ⟨a, -, e⟩ := List.mem_map.1 mem
  cases e

/-- A delivery that a step begins comes from a handler that a dispatch has yet to
come, or from one that a payload waits in. -/
theorem Step.begins {origin : DeliveryOrigin} {mark : Mark} (step : Step s marks t)
    (mem : mark ∈ marks) (begins : mark.Begins origin serial) :
    origin = .inline ∧ (∃ a ∈ toCome s, a.serial = serial) ∨
      origin = .timer ∧ ¬ s.dispatcher.Calm serial := by
  have ofStart : ∀ {d : Dispatcher} {own : Nat} {callback : Callback} {event : Event StateChange}
      {origin' : DeliveryOrigin}, mark ∈ d.startMarks origin' own callback event →
        origin = origin' ∧ serial = own := fun mem => begins_startMarks mem begins
  obtain ⟨callback, time, event, e⟩ := id begins
  -- Only turns and timers begin deliveries.
  cases step with
  | attach rules timeout callback => cases mem
  | detach id => exact absurd begins (begins_detachMarks mem)
  | replace id rules timeout callback => exact absurd begins (begins_detachMarks mem)
  | begin owner event idle =>
    rw [List.mem_singleton.1 mem] at e
    cases e
  | collect taken => cases mem
  | wait limit ahead => cases mem
  | ring next ring =>
    cases ring with
    | lapses => cases mem
    | @delivers own timer h event debouncer at_ woken =>
      obtain ⟨rfl, rfl⟩ := ofStart mem
      refine .inr ⟨rfl, fun calm => ?_⟩
      have pending := (Debouncer.delivering_wake woken).2.2
      have calm : h.debouncer.isPending = false := calm h at_
      rw [calm] at pending
      cases pending
    | ends runs =>
      rw [List.mem_singleton.1 mem] at e
      cases e
    | stops stopped => cases mem
    | resumes =>
      rw [List.mem_singleton.1 mem] at e
      cases e
  | @turn d r a rest marks stage first turn =>
    have isFirst : a ∈ toCome ⟨d, some r⟩ := by
      refine List.mem_append_left _ ?_
      show a ∈ r.rest
      rw [first]
      exact List.mem_cons_self
    cases turn with
    | missing => cases mem
    | quiet at_ effect => cases mem
    | opens at_ effect => cases mem
    | calls at_ effect atOnce =>
      obtain ⟨rfl, rfl⟩ := ofStart mem
      exact .inl ⟨rfl, a, isFirst, rfl⟩
    | holdsUp at_ effect wakes =>
      obtain ⟨rfl, rfl⟩ := ofStart mem
      exact .inl ⟨rfl, a, isFirst, rfl⟩
  | closes done => cases mem

/-- What is to come stands in the dispatch at work or in one that is held up. -/
theorem mem_toCome {a : Attachment} : a ∈ toCome s ↔
    (∃ r, s.running = some r ∧ a ∈ r.rest) ∨ ∃ x ∈ s.dispatcher.underWay, a ∈ x.rest := by
  unfold toCome
  rw [List.mem_append, List.mem_flatMap]
  cases s.running <;> simp

/-- The next alarm may hold up a dispatch, and the other ones are as before. -/
theorem mem_underWay_of_next {alarm : HandlerAlarm} {timeline : Timeline HandlerAlarm}
    (next : d.timeline.takeNext? = some (alarm, timeline)) {x : Dispatch}
    (h : alarm.dispatch? = some x ∨ x ∈ { d with timeline }.underWay) : x ∈ d.underWay := by
  rw [(underWay_next next).mem_iff, List.mem_append, Option.mem_toList]
  exact h

/-- Where no alarm for a dispatch was armed, what is yet to come is left. -/
theorem mem_toCome_of_same {b : Attachment} {running : Option Running}
    (same : d'.underWay = d.underWay) (mem : b ∈ toCome ⟨d', running⟩) :
    (∃ r, running = some r ∧ b ∈ r.rest) ∨ ∃ x ∈ d.underWay, b ∈ x.rest := by
  have mem := mem_toCome.1 mem
  rw [same] at mem
  exact mem

/-- After a turn, the rest of its dispatch is to come, and that of the others. -/
theorem Turn.toCome {r : Running} {a b : Attachment} {rest : List Attachment}
    (turn : Turn d r a rest marks t) (mem : b ∈ toCome t) :
    b ∈ rest ∨ ∃ x ∈ d.underWay, b ∈ x.rest := by
  have goesOn : ∀ {r' : Running}, r'.rest = rest →
      ((∃ r, some r' = some r ∧ b ∈ r.rest) ∨ ∃ x ∈ d.underWay, b ∈ x.rest) →
        b ∈ rest ∨ ∃ x ∈ d.underWay, b ∈ x.rest := by
    rintro r' same (⟨r'', e, mem⟩ | mem)
    · cases e
      exact .inl (same ▸ mem)
    · exact .inr mem
  cases turn with
  | missing => exact goesOn rfl (mem_toCome_of_same rfl mem)
  | @quiet h at_ effect =>
    have same : ((d.met a h r.event).release a).underWay = d.underWay :=
      underWay_congr (by simp [met])
    exact goesOn rfl (mem_toCome_of_same same mem)
  | @opens h due timer at_ effect =>
    have same : (((d.met a h r.event).arm due (.window a.serial timer)).release a).underWay =
        d.underWay := by
      rw [underWay_congr (timeline_release _ a), underWay_arm]
      exact List.append_nil _
    exact goesOn rfl (mem_toCome_of_same same mem)
  | @calls h at_ effect atOnce =>
    have same : (((d.met a h r.event).start a.serial h.callback r.event).release a).underWay =
        d.underWay := underWay_congr (by simp [met])
    exact goesOn rfl (mem_toCome_of_same same mem)
  | @holdsUp h due at_ effect wakes =>
    have same : ((d.met a h r.event).start a.serial h.callback r.event).underWay = d.underWay :=
      underWay_congr (by simp [met])
    rcases mem_toCome.1 mem with ⟨r', e, -⟩ | ⟨x, under, mem⟩
    · cases e
    · rw [underWay_arm, same] at under
      rcases List.mem_append.1 under with old | new
      · exact .inr ⟨x, old, mem⟩
      · rw [List.mem_singleton.1 new] at mem
        exact .inl mem

/-- An alarm lets a dispatch go on that was held up. -/
theorem Ring.toCome {alarm : HandlerAlarm} {b : Attachment} (ring : Ring d alarm marks t)
    (mem : b ∈ toCome t) :
    ∃ x, (alarm.dispatch? = some x ∨ x ∈ d.underWay) ∧ b ∈ x.rest := by
  have rests : ∀ {d' : Dispatcher}, d'.underWay = d.underWay → b ∈ Dispatcher.toCome ⟨d', none⟩ →
      ∃ x, (alarm.dispatch? = some x ∨ x ∈ d.underWay) ∧ b ∈ x.rest := by
    intro d' same mem
    rcases mem_toCome_of_same same mem with ⟨r, e, -⟩ | ⟨x, under, mem⟩
    · cases e
    · exact ⟨x, .inr under, mem⟩
  cases ring with
  | lapses => exact rests rfl mem
  | @delivers own timer h event debouncer at_ woken =>
    have same := underWay_deliver (d.modify own fun h => { h with debouncer }) own timer h.callback
      event
    exact rests (same.trans (underWay_congr rfl)) mem
  | ends runs => exact rests rfl mem
  | stops stopped => exact rests rfl mem
  | @resumes callback x =>
    have same : ((d.finish x.current.serial callback x.event).release x.current).underWay =
        d.underWay := underWay_congr (by simp)
    rcases mem_toCome_of_same same mem with ⟨r, e, mem⟩ | ⟨y, under, mem⟩
    · cases e
      exact ⟨x, .inl rfl, mem⟩
    · exact ⟨y, .inr under, mem⟩

/-- What a dispatch has yet to come it had before, or it has just begun. -/
theorem Step.toCome {a : Attachment} (step : Step s marks t) (mem : a ∈ toCome t) :
    a ∈ Dispatcher.toCome s ∨ marks = [.dispatched] ∧ a ∈ s.dispatcher.set.attachments := by
  cases step with
  | attach rules timeout callback => exact .inl mem
  | detach id =>
    left
    exact mem_toCome.2 (mem_toCome_of_same (underWay_congr (timeline_detach _ id)) mem)
  | replace id rules timeout callback =>
    left
    exact mem_toCome.2 (mem_toCome_of_same (underWay_congr (timeline_replace _ id _)) mem)
  | @begin d owner event idle =>
    right
    refine ⟨rfl, ?_⟩
    rcases mem_toCome.1 mem with ⟨r, e, mem⟩ | ⟨x, under, -⟩
    · cases e
      exact mem
    · have under : x ∈ d.underWay := under
      rw [idle] at under
      cases under
  | collect taken =>
    left
    rw [eq_of_takeReport? taken] at mem
    exact mem
  | wait limit ahead => exact .inl mem
  | ring next ring =>
    left
    obtain ⟨x, own, mem⟩ := ring.toCome mem
    exact mem_toCome.2 (.inr ⟨x, mem_underWay_of_next next own, mem⟩)
  | turn first turn =>
    left
    rcases turn.toCome mem with mem | under
    · refine mem_toCome.2 (.inl ⟨_, rfl, ?_⟩)
      rw [first]
      exact List.mem_cons_of_mem _ mem
    · exact mem_toCome.2 (.inr under)
  | closes done =>
    left
    rcases mem_toCome.1 mem with ⟨r, e, -⟩ | under
    · cases e
    · exact mem_toCome.2 (.inr under)

/-- Of a dispatch that begins nothing else is told, and it comes to the handlers
of the set. -/
theorem Step.of_dispatched (step : Step s marks t) (begins : .dispatched ∈ marks) :
    marks = [.dispatched] ∧ t.dispatcher = s.dispatcher ∧
      Dispatcher.toCome t = s.dispatcher.set.attachments := by
  have noDetach : ∀ {d : Dispatcher} {id : Nat}, .dispatched ∉ d.detachMarks id := by
    intro d id mem
    obtain ⟨a, -, e⟩ := List.mem_map.1 mem
    cases e
  have noStart : ∀ {d : Dispatcher} {own : Nat} {callback : Callback} {event : Event StateChange}
      {origin : DeliveryOrigin}, .dispatched ∉ d.startMarks origin own callback event := by
    intro d own callback event origin mem
    obtain ⟨id, -, mem⟩ := List.mem_flatMap.1 ((List.mem_cons.1 mem).resolve_left nofun)
    exact noDetach mem
  cases step with
  | attach rules timeout callback => cases begins
  | detach id => exact absurd begins noDetach
  | replace id rules timeout callback => exact absurd begins noDetach
  | @begin d owner event idle =>
    refine ⟨rfl, rfl, ?_⟩
    show d.set.attachments ++ d.underWay.flatMap Dispatch.rest = _
    rw [idle]
    exact List.append_nil _
  | collect taken => cases begins
  | wait limit ahead => cases begins
  | ring next ring =>
    cases ring with
    | lapses => cases begins
    | delivers at_ woken => exact absurd begins noStart
    | ends runs => simp at begins
    | stops stopped => cases begins
    | resumes => simp at begins
  | turn first turn =>
    cases turn with
    | missing => cases begins
    | quiet at_ effect => cases begins
    | opens at_ effect => cases begins
    | calls at_ effect atOnce => exact absurd begins noStart
    | holdsUp at_ effect wakes => exact absurd begins noStart
  | closes done => cases begins

/-- A dispatch that begins does not come to a handler that is gone. -/
theorem Step.silent_of_dispatched (step : Step s marks t) (gone : s.dispatcher.Gone serial)
    (begins : .dispatched ∈ marks) : Silent t serial := by
  obtain ⟨-, same, toCome⟩ := step.of_dispatched begins
  constructor
  · rw [same]
    exact gone
  · rw [toCome]
    exact HandlerSet.holds_eq_false.1 gone.out

/-- A handler for which nothing begins stays so. -/
theorem Step.silent (step : Step s marks t) (sound : Sound s) (silent : Silent s serial) :
    Silent t serial := by
  refine ⟨step.gone sound silent.gone, fun a mem => ?_⟩
  rcases step.toCome mem with before | ⟨-, inSet⟩
  · exact silent.passed a before
  · exact HandlerSet.holds_eq_false.1 silent.gone.out a inSet

theorem length_detachMarks (d : Dispatcher) (id : Nat) : (d.detachMarks id).length ≤ 1 := by
  unfold detachMarks
  cases d.set.find? id <;> simp

/-- At most one thing is told of a step, or what a callback takes out after its
beginning. -/
theorem Step.told (step : Step s marks t) :
    marks.length ≤ 1 ∨ ∃ origin own callback time event more,
      marks = .begun origin own callback time event :: more ∧ more.length ≤ 1 := by
  have starts : ∀ (d : Dispatcher) (origin : DeliveryOrigin) (own : Nat) (callback : Callback)
      (event : Event StateChange), ∃ origin' own' callback' time event' more,
        d.startMarks origin own callback event = .begun origin' own' callback' time event' :: more ∧
          more.length ≤ 1 := by
    intro d origin own callback event
    refine ⟨origin, own, callback, d.now, event, _, rfl, ?_⟩
    cases callback.detaches? with
    | none => exact Nat.zero_le _
    | some id => simpa using d.length_detachMarks id
  -- Only a callback that begins is told of together with something else.
  cases step with
  | attach rules timeout callback => exact .inl (Nat.zero_le _)
  | detach id => exact .inl (length_detachMarks _ id)
  | replace id rules timeout callback => exact .inl (length_detachMarks _ id)
  | begin owner event idle => exact .inl (Nat.le_refl _)
  | collect taken => exact .inl (Nat.zero_le _)
  | wait limit ahead => exact .inl (Nat.zero_le _)
  | ring next ring =>
    cases ring with
    | lapses => exact .inl (Nat.zero_le _)
    | delivers at_ woken => exact .inr (starts _ _ _ _ _)
    | ends runs => exact .inl (Nat.le_refl _)
    | stops stopped => exact .inl (Nat.zero_le _)
    | resumes => exact .inl (Nat.le_refl _)
  | turn first turn =>
    cases turn with
    | missing => exact .inl (Nat.zero_le _)
    | quiet at_ effect => exact .inl (Nat.zero_le _)
    | opens at_ effect => exact .inl (Nat.zero_le _)
    | calls at_ effect atOnce => exact .inr (starts _ _ _ _ _)
    | holdsUp at_ effect wakes => exact .inr (starts _ _ _ _ _)
  | closes done => exact .inl (Nat.zero_le _)

/-- What a step takes out is the last thing that is told of it. -/
theorem Step.eq_nil_of_detached {before after : List Mark} (step : Step s marks t)
    (h : marks = before ++ .detached serial :: after) : after = [] := by
  have short : ∀ {before more : List Mark}, more = before ++ .detached serial :: after →
      more.length ≤ 1 → after = [] := by
    intro before more e le
    rw [e, List.length_append, List.length_cons] at le
    exact List.length_eq_zero_iff.1 (by omega)
  rcases step.told with le | ⟨origin, own, callback, time, event, more, e, le⟩
  · exact short h le
  · rw [e] at h
    cases before with
    | nil => cases (List.cons.inj h).1
    | cons first before => exact short (List.cons.inj h).2 le

/-! ### The law of handlers that were taken out -/

/-- What holds of a handler from the moment on at which it was taken out. -/
structure TakenOut (s : Stage) (serial : Nat) (after : List Mark) : Prop where
  gone : s.dispatcher.Gone serial
  noTimer : ∀ mark ∈ after, ¬ mark.Begins .timer serial
  silent : .dispatched ∈ after → Silent s serial
  noInline : ∀ {first second : List Mark}, after = first ++ .dispatched :: second →
    ∀ mark ∈ second, ¬ mark.Begins .inline serial

/-- What holds of a handler that was taken out goes on to hold with each step. -/
theorem TakenOut.step {after more : List Mark} (out : TakenOut s serial after)
    (step : Step s more t) (sound : Sound s) : TakenOut t serial (after ++ more) where
  gone := step.gone sound out.gone
  noTimer := by
    refine List.forall_mem_append.2 ⟨out.noTimer, fun mark mem begins => ?_⟩
    rcases step.begins mem begins with ⟨origin, -⟩ | ⟨-, notCalm⟩
    · cases origin
    · exact notCalm out.gone.calm
  silent := by
    intro mem
    rcases List.mem_append.1 mem with before | now_
    · exact step.silent sound (out.silent before)
    · exact step.silent_of_dispatched out.gone now_
  noInline := by
    intro first second e mark mem begins
    -- Nothing is told after a dispatch that begins in the new step.
    have last : ∀ {rest : List Mark}, more = rest ++ .dispatched :: second → False := by
      intro rest e
      have alone := (step.of_dispatched (e ▸ List.mem_append_right _ List.mem_cons_self)).1
      have length := congrArg List.length (e.symm.trans alone)
      rw [List.length_append, List.length_cons, List.length_singleton] at length
      rw [List.length_eq_zero_iff.1 (by omega : second.length = 0)] at mem
      cases mem
    rcases List.append_eq_append_iff.1 e with ⟨rest, -, e⟩ | ⟨rest, before, e⟩
    · exact last e
    · cases rest with
      | nil => exact @last [] e.symm
      | cons d rest =>
        obtain ⟨rfl, rfl⟩ := List.cons.inj e
        rcases List.mem_append.1 mem with old | new
        · exact out.noInline before mark old begins
        · rcases step.begins new begins with ⟨-, a, isToCome, same⟩ | ⟨origin, -⟩
          · have isTold : .dispatched ∈ after := by
              rw [before]
              exact List.mem_append_right _ List.mem_cons_self
            exact (out.silent isTold).passed a isToCome same
          · cases origin

/-- A handler that a step takes out is out from then on. -/
theorem Step.takenOut {before after : List Mark} (step : Step s marks t) (sound : Sound s)
    (h : marks = before ++ .detached serial :: after) : TakenOut t serial after := by
  have isTold : .detached serial ∈ marks := by
    rw [h]
    exact List.mem_append_right _ List.mem_cons_self
  rw [step.eq_nil_of_detached h]
  exact
    { gone := step.gone_of_detached sound isTold
      noTimer := fun _ mem => absurd mem List.not_mem_nil
      silent := fun mem => absurd mem List.not_mem_nil
      noInline := by
        intro first second e
        simp at e }

/-- After any run, what holds of a handler that was taken out is true of all that is
told since. -/
theorem Run.takenOut {before after : List Mark} (run : Run s marks t) (sound : Sound s)
    (h : marks = before ++ .detached serial :: after) : TakenOut t serial after := by
  induction run generalizing before after with
  | nil => simp at h
  | snoc run step ih =>
    rcases List.append_eq_append_iff.1 h with ⟨rest, -, e⟩ | ⟨rest, e₁, e₂⟩
    · exact step.takenOut (run.sound sound) e
    · cases rest with
      | nil =>
        rw [List.nil_append] at e₂
        exact step.takenOut (run.sound sound) (e₂.symm.trans (List.nil_append _).symm)
      | cons m rest =>
        obtain ⟨rfl, rfl⟩ := List.cons.inj e₂
        exact (ih e₁).step step (run.sound sound)

end Dispatcher

end HubAutomation
