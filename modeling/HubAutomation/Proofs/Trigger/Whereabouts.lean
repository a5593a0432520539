import HubAutomation.Proofs.Trigger.HandlerOrder

/-!
# Where a handler goes

A handler that is in a set stays there, behind its id, until that id is taken
out by somebody or by a callback. Then it is gone: it is out of the set and
nothing waits in it, and so it stays whatever is done later.

- `Deed.Attaches`: what is heard when a handler is put into a set.
- `Dispatcher.Move.gone`: a handler that is gone stays so.
- `Dispatcher.Move.stays_or_gone`: a handler stays, or it is detached and gone.
-/

namespace HubAutomation

/-- A handler is put into the set. -/
def Deed.Attaches : Deed → Prop
  | .attached _ | .replaced _ => True
  | _ => False

instance : DecidablePred Deed.Attaches
  | .attached _ | .replaced _ => isTrue trivial
  | .detached _ | .begun _ | .evaluated _ | .closed _ => isFalse id

theorem detachedIn_startMarks (d : Dispatcher) (origin : DeliveryOrigin) (own : Nat)
    (callback : Callback) (event : Event StateChange) :
    detachedIn (d.startMarks origin own callback event) = callback.detaches? := by
  unfold detachedIn Dispatcher.startMarks
  rw [List.findSome?_cons]
  dsimp only [Mark.detaches?]
  cases callback.detaches? <;> rfl

namespace Dispatcher

variable {d d' : Dispatcher} {s t : Stage} {marks : List Mark} {deeds : List Deed}
  {x : Attachment} {serial : Nat}

/-! ### What a detachment leaves alone -/

theorem detach_of_unknown {id : Nat} (unknown : ¬ d.set.contains id = true) : d.detach id = d := by
  have absent : d.set.find? id = none := Option.not_isSome_iff_eq_none.1 unknown
  rw [detach, absent]

theorem length_handlers_detach (d : Dispatcher) (id : Nat) :
    (d.detach id).handlers.length = d.handlers.length := by
  unfold detach
  split
  · exact length_modify _ _ _
  · rfl

/-- All handlers but the one behind the id stay as they are. -/
theorem getElem?_detach {id : Nat} (other : ∀ a, d.set.find? id = some a → a.serial ≠ serial) :
    (d.detach id).handlers[serial]? = d.handlers[serial]? := by
  unfold detach
  split
  · rename_i a found
    exact (getElem?_modify _ _ _ _).trans (if_neg (other a found))
  · rfl

/-! ### Gone for good -/

/-- Who changes the set brings no handler back. -/
theorem Change.gone (change : Change d deeds d') (gone : d.Gone serial) : d'.Gone serial := by
  cases change with
  | attach h => exact gone.keep (keeps_attach d h) (gone.calm.append gone.known rfl)
  | detach id => exact gone.keep (keeps_detach d id) (gone.calm.detach id)
  | replace id h => exact gone.keep (keeps_replace d id h) (gone.calm.replace gone.known id h)

/-- No move brings a handler back. -/
theorem Move.gone (move : Move s deeds t) (sound : Sound s) (gone : s.dispatcher.Gone serial) :
    t.dispatcher.Gone serial := by
  cases move with
  | change running change => exact change.gone gone
  | begin owner event idle => exact (Step.begin owner event idle).gone sound gone
  | turn first turn => exact (Step.turn first turn).gone sound gone
  | closes done => exact (Step.closes done).gone sound gone
  | ring next ring => exact (Step.ring next ring).gone sound gone
  | collect taken => exact (Step.collect taken).gone sound gone
  | wait limit ahead => exact (Step.wait limit ahead).gone sound gone

/-! ### In the set, or gone -/

/-- A handler of the set after an id was taken out: it is still there, or the id
was its own. -/
theorem stays_or_gone_detach (sound : d.set.Sound d.handlers.length)
    (mem : x ∈ d.set.attachments) (id : Nat) :
    x ∈ (d.detach id).set.attachments ∨ id = x.id ∧ (d.detach id).Gone x.serial := by
  by_cases own : x.id = id
  · have known : d.set.contains id = true := HandlerSet.contains_iff.2 ⟨x, mem, own⟩
    obtain ⟨y, found⟩ := Option.isSome_iff_exists.1 known
    obtain ⟨memY, isId⟩ := HandlerSet.find?_eq_some found
    obtain rfl : y = x := List.inj_on_of_nodup_map sound.ids memY mem (isId.trans own.symm)
    exact .inr ⟨own.symm, gone_detach sound found⟩
  · rw [set_detach]
    exact .inl (List.mem_filter.2 ⟨mem, decide_eq_true own⟩)

/-- A callback leaves a handler in the set or takes it out. -/
theorem stays_or_gone_start (sound : d.set.Sound d.handlers.length)
    (mem : x ∈ d.set.attachments) (own : Nat) (callback : Callback) (event : Event StateChange) :
    x ∈ (d.start own callback event).set.attachments ∨
      callback.detaches? = some x.id ∧ (d.start own callback event).Gone x.serial := by
  unfold start
  dsimp only
  cases callback.detaches? with
  | none => exact .inl mem
  | some id =>
    refine (stays_or_gone_detach (d := d.see own (callback.delivery.start d.now event)) sound mem
      id).imp_right ?_
    rintro ⟨rfl, gone⟩
    exact ⟨rfl, gone⟩

/-- A turn leaves a handler in the set or takes it out. -/
theorem Turn.stays_or_gone {r : Running} {a : Attachment} {rest : List Attachment}
    (turn : Turn d r a rest marks t) (sound : d.set.Sound d.handlers.length)
    (mem : x ∈ d.set.attachments) :
    x ∈ t.dispatcher.set.attachments ∨
      detachedIn marks = some x.id ∧ t.dispatcher.Gone x.serial := by
  cases turn with
  | missing => exact .inl mem
  | quiet at_ effect =>
    rw [set_release]
    exact .inl mem
  | opens at_ effect =>
    rw [set_release]
    exact .inl mem
  | @calls h at_ effect atOnce =>
    have met := (keeps_met at_ r.event).set sound
    rw [set_release, detachedIn_startMarks]
    refine (stays_or_gone_start met mem a.serial h.callback r.event).imp_right ?_
    rintro ⟨takes, gone⟩
    exact ⟨takes, gone.keep (keeps_release _ a) (gone.calm.release a)⟩
  | @holdsUp h due at_ effect wakes =>
    have met := (keeps_met at_ r.event).set sound
    rw [detachedIn_startMarks]
    refine (stays_or_gone_start met mem a.serial h.callback r.event).imp_right ?_
    rintro ⟨takes, gone⟩
    exact ⟨takes, gone.known, gone.out, gone.calm⟩

/-- An alarm leaves a handler in the set or takes it out. -/
theorem Ring.stays_or_gone {alarm : HandlerAlarm} (ring : Ring d alarm marks t)
    (sound : d.set.Sound d.handlers.length) (mem : x ∈ d.set.attachments) :
    x ∈ t.dispatcher.set.attachments ∨
      detachedIn marks = some x.id ∧ t.dispatcher.Gone x.serial := by
  cases ring with
  | lapses gone => exact .inl mem
  | @delivers own timer h event debouncer at_ woken =>
    have wakes := (keeps_wake at_ woken).set sound
    rw [set_deliver, detachedIn_startMarks]
    refine (stays_or_gone_start wakes mem own h.callback event).imp_right ?_
    rintro ⟨takes, gone⟩
    refine ⟨takes, ?_⟩
    unfold deliver
    dsimp only
    split
    · exact ⟨gone.known, gone.out, gone.calm⟩
    · exact gone
  | ends runs => exact .inl mem
  | stops stopped => exact .inl mem
  | resumes =>
    rw [set_release]
    exact .inl mem

/-- The id that a callback takes out is heard of, if it is known. -/
theorem detached_mem_callbackDeeds (takes : detachedIn marks = some x.id)
    (mem : x ∈ d.set.attachments) : .detached x.id ∈ d.callbackDeeds marks := by
  have known : d.set.contains x.id = true := HandlerSet.contains_iff.2 ⟨x, mem, rfl⟩
  rw [callbackDeeds, takes, Option.toList_some, List.flatMap_singleton, HandlerSet.detachDeeds,
    if_pos known]
  exact List.mem_singleton.2 rfl

/-- Where nothing is attached, a handler of the set stays behind its id until the
id is detached, and then it is gone. -/
theorem Move.stays_or_gone (move : Move s deeds t) (sound : Sound s)
    (alone : ∀ deed ∈ deeds, ¬ deed.Attaches) (mem : x ∈ s.dispatcher.set.attachments) :
    x ∈ t.dispatcher.set.attachments ∨
      .detached x.id ∈ deeds ∧ t.dispatcher.Gone x.serial := by
  cases move with
  | @change d d' deeds running change =>
    cases change with
    | attach h => exact absurd trivial (alone _ List.mem_cons_self)
    | detach id =>
      refine (stays_or_gone_detach sound.set mem id).imp_right ?_
      rintro ⟨rfl, gone⟩
      have known : d.set.contains x.id = true := HandlerSet.contains_iff.2 ⟨x, mem, rfl⟩
      rw [HandlerSet.detachDeeds, if_pos known]
      exact ⟨List.mem_singleton.2 rfl, gone⟩
    | replace id h =>
      rw [set_replace]
      by_cases known : d.set.contains id = true
      · rw [HandlerSet.replaceDeeds, if_pos known] at alone
        exact absurd trivial (alone _ List.mem_cons_self)
      · rw [HandlerSet.replace_of_unknown known]
        exact .inl mem
  | begin owner event idle => exact .inl mem
  | turn first turn =>
    refine (turn.stays_or_gone sound.set mem).imp_right ?_
    rintro ⟨takes, gone⟩
    exact ⟨List.mem_cons_of_mem _ (detached_mem_callbackDeeds takes mem), gone⟩
  | closes done => exact .inl mem
  | @ring d alarm timeline marks t next ring =>
    refine (ring.stays_or_gone sound.set mem).imp_right ?_
    rintro ⟨takes, gone⟩
    exact ⟨detached_mem_callbackDeeds (d := d) takes mem, gone⟩
  | collect taken =>
    rw [eq_of_takeReport? taken]
    exact .inl mem
  | wait limit ahead => exact .inl mem

/-- Where nothing is attached, nothing comes into the set, and no id is handed
out. -/
theorem Move.set_shrinks (move : Move s deeds t) (alone : ∀ deed ∈ deeds, ¬ deed.Attaches) :
    t.dispatcher.set.attachments ⊆ s.dispatcher.set.attachments ∧
      t.dispatcher.set.lastId = s.dispatcher.set.lastId := by
  have taken : ∀ (set : HandlerSet) (id? : Option Nat),
      (id?.elim set set.detach).attachments ⊆ set.attachments ∧
        (id?.elim set set.detach).lastId = set.lastId := by
    intro set id?
    cases id? with
    | none => exact ⟨List.Subset.refl _, rfl⟩
    | some id => exact ⟨List.filter_subset_self _, rfl⟩
  cases move with
  | @change d d' deeds running change =>
    cases change with
    | attach h => exact absurd trivial (alone _ List.mem_cons_self)
    | detach id =>
      rw [set_detach]
      exact taken d.set (some id)
    | replace id h =>
      rw [set_replace]
      by_cases known : d.set.contains id = true
      · rw [HandlerSet.replaceDeeds, if_pos known] at alone
        exact absurd trivial (alone _ List.mem_cons_self)
      · rw [HandlerSet.replace_of_unknown known]
        exact taken d.set none
  | begin owner event idle => exact taken _ none
  | turn first turn =>
    rw [turn.set]
    exact taken _ _
  | closes done => exact taken _ none
  | ring next ring =>
    rw [ring.set]
    exact taken _ _
  | collect from_ =>
    rw [eq_of_takeReport? from_]
    exact taken _ none
  | wait limit ahead => exact taken _ none

end Dispatcher

end HubAutomation
