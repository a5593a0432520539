import HubAutomation.Proofs.Trigger.SoundStages

/-!
# Handlers that are gone

A handler that is out of its set waits for nothing. A dispatch that still has it
to come may show it an event and open a window, but then nobody keeps the
handler and the window closes at once.

- `Dispatcher.Calm`: no payload waits in a handler.
- `Dispatcher.Gone`: a handler is out of the set and waits for nothing.
- `Step.gone`, `Step.gone_of_detached`: who is taken out is gone, and stays so.
-/

namespace HubAutomation

namespace Dispatcher

variable {d d' d'' : Dispatcher} {serial : Nat} {s t : Stage} {marks : List Mark}

/-! ### Handlers that wait for nothing -/

/-- No payload waits in a handler. -/
def Calm (d : Dispatcher) (serial : Nat) : Prop :=
  ∀ h, d.handlers[serial]? = some h → h.isPending = false

/-- A change to one handler leaves the others calm. -/
theorem Calm.modify {own : Nat} {f : TriggerHandler → TriggerHandler}
    (calm : own ≠ serial → d.Calm serial)
    (own_ : own = serial → ∀ h, d.handlers[serial]? = some h → (f h).isPending = false) :
    (d.modify own f).Calm serial := by
  intro h at_
  rw [getElem?_modify] at at_
  split at at_
  · rename_i same
    obtain ⟨h', at', rfl⟩ := Option.map_eq_some_iff.1 at_
    exact own_ same h' at'
  · rename_i other
    exact calm other h at_

theorem Calm.cancel (calm : d.Calm serial) (own : Nat) : (d.cancel own).Calm serial :=
  .modify (fun _ => calm) fun _ h _ => h.debouncer.isPending_cancel

/-- A cancellation calms a handler. -/
theorem calm_cancel (d : Dispatcher) (serial : Nat) : (d.cancel serial).Calm serial :=
  .modify (fun other => absurd rfl other) fun _ h _ => h.debouncer.isPending_cancel

theorem Calm.detach (calm : d.Calm serial) (id : Nat) : (d.detach id).Calm serial := by
  unfold Dispatcher.detach
  split
  · have taken : Calm { d with set := d.set.detach id } serial := calm
    exact taken.cancel _
  · exact calm

theorem Calm.append (calm : d.Calm serial) (lt : serial < d.handlers.length) {h : TriggerHandler}
    (handlers : d'.handlers = d.handlers ++ [h]) : d'.Calm serial := by
  intro h' at_
  rw [handlers, List.getElem?_append_left lt] at at_
  exact calm h' at_

theorem Calm.replace (calm : d.Calm serial) (lt : serial < d.handlers.length) (id : Nat)
    (h : TriggerHandler) : (d.replace id h).Calm serial := by
  unfold Dispatcher.replace
  split
  · have replaced : Calm
        { d with handlers := d.handlers ++ [h], set := d.set.replace id d.handlers.length } serial :=
      calm.append lt rfl
    exact replaced.cancel _
  · exact calm

/-- A callback that begins may take a handler out, which calms it. -/
theorem Calm.start (calm : d.Calm serial) (own : Nat) (callback : Callback)
    (event : Event StateChange) : (d.start own callback event).Calm serial := by
  have seen : (d.see own (callback.delivery.start d.now event)).Calm serial := calm
  unfold Dispatcher.start
  dsimp only
  split
  · exact seen.detach _
  · exact seen

theorem Calm.deliver (calm : d.Calm serial) (own timer : Nat) (callback : Callback)
    (event : Event StateChange) : (d.deliver own timer callback event).Calm serial := by
  unfold Dispatcher.deliver
  dsimp only
  split
  · exact calm.start own callback event
  · exact calm.start own callback event

theorem Calm.release (calm : d.Calm serial) (a : Attachment) : (d.release a).Calm serial := by
  unfold Dispatcher.release
  split
  · exact calm
  · exact calm.cancel _

/-- Nobody keeps a handler that is in no set and in no dispatch that is held up. -/
theorem holds_eq_false (out : d.set.holds serial = false) (nothing : d.underWay = []) :
    d.holds serial = false := by
  unfold holds
  rw [out, Bool.false_or, List.any_eq_false]
  intro a mem keeps
  unfold HandlerAlarm.holds at keeps
  split at keeps
  · rename_i callback x isTurn
    have under : x ∈ d.underWay := by
      refine List.mem_filterMap.2 ⟨a, mem, ?_⟩
      rw [isTurn]
      rfl
    rw [nothing] at under
    cases under
  · cases keeps

/-- What a turn has left in a handler that nobody keeps is given up. -/
theorem calm_release {a : Attachment} (out : d.set.holds serial = false)
    (nothing : d.underWay = []) (calm : a.serial ≠ serial → d.Calm serial) :
    (d.release a).Calm serial := by
  by_cases same : a.serial = serial
  · have dropped : d.release a = d.cancel serial := by
      unfold Dispatcher.release
      rw [same, holds_eq_false out nothing]
      rfl
    rw [dropped]
    exact calm_cancel d serial
  · exact (calm same).release a

/-! ### Handlers that are gone -/

/-- A handler is out of the set, and nothing waits in it. -/
structure Gone (d : Dispatcher) (serial : Nat) : Prop where
  known : serial < d.handlers.length
  out : d.set.holds serial = false
  calm : d.Calm serial

theorem Gone.keep (gone : d.Gone serial) (keeps : d.Keeps d') (calm : d'.Calm serial) :
    d'.Gone serial :=
  ⟨gone.known.trans_le keeps.length, keeps.out gone.known gone.out, calm⟩

/-- A handler that is taken out is gone. -/
theorem gone_detach {id : Nat} {a : Attachment} (sound : d.set.Sound d.handlers.length)
    (found : d.set.find? id = some a) : (d.detach id).Gone a.serial := by
  have lt := sound.known a (HandlerSet.find?_eq_some found).1
  refine ⟨lt.trans_le (keeps_detach d id).length, ?_, ?_⟩
  · unfold detach
    rw [found]
    exact sound.not_holds_detach found
  · unfold detach
    rw [found]
    exact calm_cancel _ _

/-- A handler that is replaced is gone. -/
theorem gone_replace {id : Nat} {a : Attachment} (sound : d.set.Sound d.handlers.length)
    (found : d.set.find? id = some a) (h : TriggerHandler) : (d.replace id h).Gone a.serial := by
  have lt := sound.known a (HandlerSet.find?_eq_some found).1
  refine ⟨lt.trans_le (keeps_replace d id h).length, ?_, ?_⟩
  · unfold replace
    rw [found]
    exact sound.not_holds_replace found
  · unfold replace
    rw [found]
    exact calm_cancel _ _

theorem mem_detachMarks {id : Nat} (h : .detached serial ∈ d.detachMarks id) :
    ∃ a, d.set.find? id = some a ∧ a.serial = serial := by
  obtain ⟨a, mem, e⟩ := List.mem_map.1 h
  cases e
  exact ⟨a, Option.mem_toList.1 mem, rfl⟩

/-- A callback that takes a handler out leaves it gone. -/
theorem gone_start {own : Nat} {callback : Callback} {event : Event StateChange}
    {origin : DeliveryOrigin} (sound : d.set.Sound d.handlers.length)
    (h : .detached serial ∈ d.startMarks origin own callback event) :
    (d.start own callback event).Gone serial := by
  obtain ⟨id, takes, mem⟩ := List.mem_flatMap.1 ((List.mem_cons.1 h).resolve_left nofun)
  obtain ⟨a, found, rfl⟩ := mem_detachMarks mem
  unfold start
  rw [Option.mem_toList.1 takes]
  exact gone_detach (d := d.see own (callback.delivery.start d.now event)) sound found

/-- A turn leaves a handler gone, even if it is the one that the turn comes to: nobody
keeps it, so it is let go. -/
theorem Turn.gone {r : Running} {a : Attachment} {rest : List Attachment}
    (turn : Turn d r a rest marks t) (sound : Sound ⟨d, some r⟩) (gone : d.Gone serial) :
    t.dispatcher.Gone serial := by
  have nothing : d.underWay = [] := by
    have one : 1 + d.underWay.length ≤ 1 := sound.one
    exact List.length_eq_zero_iff.1 (by omega)
  refine gone.keep turn.keeps ?_
  -- The others are calm as before; the handler itself may have opened a window just
  -- now.
  have met : ∀ (h : TriggerHandler), a.serial ≠ serial → (d.met a h r.event).Calm serial :=
    fun h other => .modify (fun _ => gone.calm) fun same => absurd same other
  cases turn with
  | missing => exact gone.calm
  | @quiet h at_ effect => exact calm_release gone.out nothing (met h)
  | @opens h due timer at_ effect =>
    refine calm_release gone.out ?_ (met h)
    rw [underWay_arm]
    exact (List.append_nil _).trans nothing
  | @calls h at_ effect atOnce =>
    refine calm_release ?_ ?_ fun other => (met h other).start _ _ _
    · have keeps := (keeps_met at_ r.event).trans (keeps_start _ a.serial h.callback r.event)
      exact keeps.out gone.known gone.out
    · exact (underWay_congr (timeline_start _ _ _ _)).trans nothing
  | @holdsUp h due at_ effect wakes =>
    -- A handler without a window keeps nothing back.
    have calm : (d.met a h r.event).Calm serial :=
      .modify (fun _ => gone.calm) fun _ _ _ =>
        TriggerHandler.not_pending_of_meet_deliver effect
    exact calm.start _ _ _

/-- An alarm leaves a handler gone, as nothing waits in it that could be delivered. -/
theorem Ring.gone {alarm : HandlerAlarm} (ring : Ring d alarm marks t) (gone : d.Gone serial) :
    t.dispatcher.Gone serial := by
  refine gone.keep ring.keeps ?_
  cases ring with
  | lapses => exact gone.calm
  | @delivers own timer h event debouncer at_ woken =>
    have wakes : (d.modify own fun h => { h with debouncer }).Calm serial := by
      refine .modify (fun _ => gone.calm) ?_
      rintro rfl h' -
      have pending := (Debouncer.delivering_wake woken).2.2
      have calm : h.debouncer.isPending = false := gone.calm h at_
      rw [calm] at pending
      cases pending
    exact wakes.deliver _ _ _ _
  | ends runs => exact gone.calm
  | stops stopped => exact gone.calm
  | @resumes callback x =>
    have finished : (d.finish x.current.serial callback x.event).Calm serial := gone.calm
    exact finished.release _

/-- A handler that is gone stays so. -/
theorem Step.gone (step : Step s marks t) (sound : Sound s) (gone : s.dispatcher.Gone serial) :
    t.dispatcher.Gone serial := by
  cases step with
  | attach rules timeout callback =>
    exact gone.keep (keeps_attach _ _) (gone.calm.append gone.known rfl)
  | detach id => exact gone.keep (keeps_detach _ _) (gone.calm.detach id)
  | replace id rules timeout callback =>
    exact gone.keep (keeps_replace _ _ _) (gone.calm.replace gone.known id _)
  | begin owner event idle => exact gone
  | collect taken =>
    rw [eq_of_takeReport? taken]
    exact ⟨gone.known, gone.out, gone.calm⟩
  | wait limit ahead => exact ⟨gone.known, gone.out, gone.calm⟩
  | @ring d alarm timeline marks stage next ring =>
    have moved : Gone { d with timeline } serial := ⟨gone.known, gone.out, gone.calm⟩
    exact ring.gone moved
  | turn first turn => exact turn.gone sound gone
  | closes done => exact ⟨gone.known, gone.out, gone.calm⟩

/-- A handler that a step takes out is gone after it. -/
theorem Step.gone_of_detached (step : Step s marks t) (sound : Sound s)
    (h : .detached serial ∈ marks) : t.dispatcher.Gone serial := by
  cases step with
  | attach rules timeout callback => cases h
  | detach id =>
    obtain ⟨a, found, rfl⟩ := mem_detachMarks h
    exact gone_detach sound.set found
  | replace id rules timeout callback =>
    obtain ⟨a, found, rfl⟩ := mem_detachMarks h
    exact gone_replace sound.set found _
  | begin owner event idle => simp at h
  | collect taken => cases h
  | wait limit ahead => cases h
  | ring next ring =>
    cases ring with
    | lapses => cases h
    | @delivers own timer handler event debouncer at_ woken =>
      have wakes := (keeps_wake at_ woken).set (sound.next next).1.set
      have gone := gone_start wakes h
      unfold deliver
      dsimp only
      split
      · exact ⟨gone.known, gone.out, gone.calm⟩
      · exact gone
    | ends runs => simp at h
    | stops stopped => cases h
    | resumes => simp at h
  | turn first turn =>
    cases turn with
    | missing => cases h
    | quiet at_ effect => cases h
    | opens at_ effect => cases h
    | calls at_ effect atOnce =>
      have gone := gone_start ((keeps_met at_ _).set sound.set) h
      exact gone.keep (keeps_release _ _) (gone.calm.release _)
    | holdsUp at_ effect wakes =>
      have gone := gone_start ((keeps_met at_ _).set sound.set) h
      exact ⟨gone.known, gone.out, gone.calm⟩
  | closes done => cases h

end Dispatcher

end HubAutomation
