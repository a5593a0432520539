import HubAutomation.Automations
import HubAutomation.Proofs.Json.CanonicalDocuments
import HubAutomation.Proofs.Trigger.Whereabouts

/-!
# Handlers and their keys

The keys and the handler set are changed side by side, and a handler may be
detached without its key. Who hears what is done with the keys can tell which
handler stands under each of them, and that is what the keys say. A handler of
the set is the one under exactly one key; one that is under a key and not in the
set was detached and is gone.

- `Automations.Entry`: what is done. `Automations.recorded`: the handler that is
  under a key after that.
- `Automations.Step`, `Automations.Run`: whatever happens to automations while
  nothing is attached without a key.
- `Automations.Kept`: keys and set after a run.
- `Automations.Spares`: what an operation on one key leaves alone.
- `Automations.keys_and_handlers`: keys, set and operations after every run.
-/

namespace HubAutomation

namespace Automations

/-! ### What is done -/

/-- What is done with automations, and what is heard of their handlers. -/
inductive Entry where
  | put (key : String) (x : Attachment)
  | removed (key : String)
  /-- Something that does not go by a key. -/
  | heard (deeds : List Deed)

/-- Who is under a key after an entry, given who was before. -/
def Entry.after (key : String) (before : Option Attachment) : Entry → Option Attachment
  | .put own x => if own = key then some x else before
  | .removed own => if own = key then none else before
  | .heard _ => before

/-- Who is under a key: the handler that was put there last, unless the key was
removed since. -/
def recorded (history : List Entry) (key : String) : Option Attachment :=
  history.foldl (Entry.after key) none

/-- What is recorded under a key after one entry more. -/
theorem recorded_concat (history : List Entry) (e : Entry) (key : String) :
    recorded (history ++ [e]) key = e.after key (recorded history key) := List.foldl_append

/-- Nobody detached a handler without its key. -/
def Undetached (history : List Entry) : Prop :=
  ∀ deeds, .heard deeds ∈ history → ∀ id, .detached id ∉ deeds

/-- Automations, in the middle of a dispatch or not. -/
structure Stage where
  automations : Automations
  running : Option Dispatcher.Running

/-- The stage of the dispatcher. -/
def Stage.dispatching (s : Stage) : Dispatcher.Stage := ⟨s.automations.dispatcher, s.running⟩

/-- The attachment that the next handler gets. -/
def next (a : Automations) : Attachment :=
  ⟨a.dispatcher.set.lastId + 1, a.dispatcher.handlers.length⟩

/-- Whatever happens to automations: an operation on a key, at any time, or
anything else that attaches no handler. -/
inductive Step : Stage → Entry → Stage → Prop where
  | put {a : Automations} {running : Option Dispatcher.Running} (key : String)
      (h : TriggerHandler) : Step ⟨a, running⟩ (.put key a.next) ⟨a.put key h, running⟩
  | remove {a : Automations} {running : Option Dispatcher.Running} (key : String) :
      Step ⟨a, running⟩ (.removed key) ⟨(a.withdraw key).2, running⟩
  | elsewhere {a : Automations} {d : Dispatcher} {running running' : Option Dispatcher.Running}
      {deeds : List Deed} (move : Dispatcher.Move ⟨a.dispatcher, running⟩ deeds ⟨d, running'⟩)
      (alone : ∀ deed ∈ deeds, ¬ deed.Attaches) :
      Step ⟨a, running⟩ (.heard deeds) ⟨{ a with dispatcher := d }, running'⟩

/-- One step after another, from no automations. -/
inductive Run (now : Nat) : List Entry → Stage → Prop where
  | nil : Run now [] ⟨.new now, none⟩
  | snoc {history : List Entry} {e : Entry} {s t : Stage} (run : Run now history s)
      (step : Step s e t) : Run now (history ++ [e]) t

/-- Nothing is recorded any more under the key that was removed. -/
theorem recorded_removed_eq_some {history : List Entry} {key other : String} {x : Attachment} :
    recorded (history ++ [.removed key]) other = some x ↔
      key ≠ other ∧ recorded history other = some x := by
  rw [recorded_concat, Entry.after]
  by_cases same : key = other
  · rw [if_pos same]
    exact ⟨nofun, fun h => absurd same h.1⟩
  · rw [if_neg same]
    exact (and_iff_right same).symm

/-- Under the key that was put, the new handler is recorded. -/
theorem recorded_put_eq_some {history : List Entry} {key other : String} {x y : Attachment} :
    recorded (history ++ [.put key y]) other = some x ↔
      key = other ∧ y = x ∨ key ≠ other ∧ recorded history other = some x := by
  rw [recorded_concat, Entry.after]
  by_cases same : key = other
  · rw [if_pos same, Option.some.injEq]
    simp [same]
  · rw [if_neg same]
    simp [same]

/-- What is recorded under a key was put there. -/
theorem mem_of_recorded {history : List Entry} {key : String} {x : Attachment}
    (h : recorded history key = some x) : .put key x ∈ history := by
  induction history using List.reverseRecOn with
  | nil => cases h
  | append_singleton history e ih =>
    cases e with
    | put own y =>
      rcases recorded_put_eq_some.1 h with ⟨rfl, rfl⟩ | ⟨-, h⟩
      · exact List.mem_append_right _ (List.mem_singleton.2 rfl)
      · exact List.mem_append_left _ (ih h)
    | removed own => exact List.mem_append_left _ (ih (recorded_removed_eq_some.1 h).2)
    | heard deeds =>
      rw [recorded_concat] at h
      exact List.mem_append_left _ (ih h)

/-! ### The keys -/

section

variable {a : Automations}

/-- A key that is removed has no handler any more. -/
theorem handlerId?_remove (a : Automations) (key other : String) :
    (a.remove key).handlerId? other = if other = key then none else a.handlerId? other := by
  unfold remove handlerId?
  cases found : a.keys.find? key with
  | some id => exact Dict.find?_erase _ _ _
  | none =>
    by_cases same : other = key
    · rw [if_pos same, same]
      exact found
    · rw [if_neg same]

/-- The handler of a key that is removed is taken out of the set. -/
theorem dispatcher_remove (a : Automations) (key : String) :
    (a.remove key).dispatcher = (a.handlerId? key).elim a.dispatcher a.dispatcher.detach := by
  unfold remove handlerId?
  cases a.keys.find? key <;> rfl

/-- The keys stay in order. -/
theorem sorted_remove (sorted : a.keys.Sorted) (key : String) : (a.remove key).keys.Sorted := by
  unfold remove
  cases a.keys.find? key with
  | some id => exact sorted.erase key
  | none => exact sorted

/-- A handler is attached and put under a key that is free. -/
def register (a : Automations) (key : String) (h : TriggerHandler) : Automations :=
  ⟨a.keys.insert key a.next.id, a.dispatcher.attach h⟩

/-- To put something under a key is to remove the key and then to register it. -/
theorem put_eq (a : Automations) (key : String) (h : TriggerHandler) :
    a.put key h = (a.remove key).register key h := rfl

/-- A key that is registered has the next handler. -/
theorem handlerId?_register (a : Automations) (key : String) (h : TriggerHandler)
    (other : String) : (a.register key h).handlerId? other =
      if other = key then some a.next.id else a.handlerId? other := Dict.find?_insert _ _ _ _

end

/-! ### Keys and set -/

/-- Keys and set are as they were written down. -/
structure Kept (history : List Entry) (s : Stage) : Prop where
  sound : Dispatcher.Sound s.dispatching
  sorted : s.automations.keys.Sorted
  ids : ∀ key, s.automations.handlerId? key = (recorded history key).map Attachment.id
  /-- Neither an id nor a handler's number is used again. -/
  used : ∀ key x, .put key x ∈ history →
    x.id < s.automations.next.id ∧ x.serial < s.automations.next.serial
  apart : ∀ key other x y, recorded history key = some x → recorded history other = some y →
    x.id = y.id ∨ x.serial = y.serial → key = other
  known : ∀ x ∈ s.automations.dispatcher.set.attachments, ∃ key, recorded history key = some x
  whereabouts : ∀ key x, recorded history key = some x →
    x ∈ s.automations.dispatcher.set.attachments ∨
      ¬ Undetached history ∧ s.automations.dispatcher.Gone x.serial

/-- Before anything is done there are no keys and no handlers. -/
theorem kept_new (now : Nat) : Kept [] ⟨.new now, none⟩ where
  sound := Dispatcher.sound_new now
  sorted := List.Pairwise.nil
  ids := fun _ => rfl
  used := fun _ _ mem => absurd mem List.not_mem_nil
  apart := fun _ _ _ _ h => by cases h
  known := fun _ mem => absurd mem List.not_mem_nil
  whereabouts := fun _ _ h => by cases h

/-- A dispatcher without the handler that was under a key. -/
structure Without (d : Dispatcher) (old : Option Attachment) (d' : Dispatcher) : Prop where
  keeps : d.Keeps d'
  gone : ∀ x ∈ old, d'.Gone x.serial ∧ ¬ d'.set.contains x.id = true
  still_gone : ∀ serial, d.Gone serial → d'.Gone serial
  attachments : d'.set.attachments = d.set.attachments.filter fun x => old ≠ some x
  lastId : d'.set.lastId = d.set.lastId
  length : d'.handlers.length = d.handlers.length
  /-- The other handlers stay as they are, with the calls that wait in them. -/
  others : ∀ serial, (∀ x ∈ old, x.serial ≠ serial) → d'.handlers[serial]? = d.handlers[serial]?
  timeline : d'.timeline = d.timeline

namespace Without

variable {d : Dispatcher} {x : Attachment}

/-- Without a handler to take out, nothing changes. -/
theorem of_none (d : Dispatcher) : Without d none d where
  keeps := .refl d
  gone := nofun
  still_gone := fun _ gone => gone
  attachments := (List.filter_eq_self.2 fun _ _ => rfl).symm
  lastId := rfl
  length := rfl
  others := fun _ _ => rfl
  timeline := rfl

/-- A handler that is out already. -/
theorem of_unknown (unknown : ¬ d.set.contains x.id = true) (gone : d.Gone x.serial) :
    Without d (some x) d where
  keeps := .refl d
  gone := by
    rintro _ ⟨⟩
    exact ⟨gone, unknown⟩
  still_gone := fun _ gone => gone
  attachments := by
    refine (List.filter_eq_self.2 fun y mem => decide_eq_true ?_).symm
    rintro ⟨⟩
    exact unknown (HandlerSet.contains_iff.2 ⟨x, mem, rfl⟩)
  lastId := rfl
  length := rfl
  others := fun _ _ => rfl
  timeline := rfl

/-- A detach leaves the set without one handler, and the others where they were. -/
theorem detach (sound : d.set.Sound d.handlers.length) (mem : x ∈ d.set.attachments) :
    Without d (some x) (d.detach x.id) := by
  have own : ∀ y ∈ d.set.attachments, y.id = x.id → y = x := fun y memY same =>
    List.inj_on_of_nodup_map sound.ids memY mem same
  have found : d.set.find? x.id = some x := by
    obtain ⟨y, found⟩ := Option.isSome_iff_exists.1
      (HandlerSet.contains_iff.2 ⟨x, mem, rfl⟩ : d.set.contains x.id = true)
    obtain ⟨memY, isId⟩ := HandlerSet.find?_eq_some found
    rwa [own y memY isId] at found
  have attachments : (d.detach x.id).set.attachments =
      d.set.attachments.filter fun y => y.id ≠ x.id := by
    rw [Dispatcher.set_detach]
    rfl
  exact
    { keeps := Dispatcher.keeps_detach d x.id
      gone := by
        rintro _ ⟨⟩
        refine ⟨Dispatcher.gone_detach sound found, fun known => ?_⟩
        obtain ⟨y, memY, same⟩ := HandlerSet.contains_iff.1 known
        rw [attachments, List.mem_filter] at memY
        exact absurd same (of_decide_eq_true memY.2)
      still_gone := fun serial gone => (Dispatcher.Change.detach x.id).gone gone
      attachments := by
        rw [attachments]
        refine List.filter_congr fun y memY => decide_eq_decide.2 ?_
        refine not_congr ⟨fun same => congrArg some (own y memY same).symm, ?_⟩
        rintro ⟨⟩
        rfl
      lastId := by
        rw [Dispatcher.set_detach]
        rfl
      length := Dispatcher.length_handlers_detach d x.id
      others := by
        intro serial other
        refine Dispatcher.getElem?_detach fun y foundY => ?_
        rw [found] at foundY
        exact other y (foundY ▸ rfl)
      timeline := Dispatcher.timeline_detach d x.id }

end Without

namespace Kept

variable {history : List Entry} {s : Stage} {a : Automations}
  {running : Option Dispatcher.Running} {key : String}

/-- A handler that is out of the set though it is under a key is known there by no
one. -/
theorem not_contains (kept : Kept history s) {x : Attachment}
    (isRecorded : recorded history key = some x)
    (out : x ∉ s.automations.dispatcher.set.attachments) :
    ¬ s.automations.dispatcher.set.contains x.id = true := by
  intro known
  obtain ⟨y, mem, same⟩ := HandlerSet.contains_iff.1 known
  obtain ⟨other, recordedY⟩ := kept.known y mem
  obtain rfl := kept.apart other key y x recordedY isRecorded (.inl same)
  rw [isRecorded] at recordedY
  cases recordedY
  exact out mem

/-- Removing a key leaves the set without the handler that is recorded under it. -/
theorem without (kept : Kept history s) (key : String) :
    Without s.automations.dispatcher (recorded history key)
      (s.automations.remove key).dispatcher := by
  rw [dispatcher_remove, kept.ids]
  cases isRecorded : recorded history key with
  | none => exact .of_none _
  | some x =>
    show Without _ _ (s.automations.dispatcher.detach x.id)
    by_cases mem : x ∈ s.automations.dispatcher.set.attachments
    · exact .detach kept.sound.set mem
    · have gone := (kept.whereabouts key x isRecorded).resolve_left mem
      have unknown := kept.not_contains isRecorded mem
      rw [Dispatcher.detach_of_unknown unknown]
      exact .of_unknown unknown gone.2

/-- Ids that were handed out are not handed out again after a key was removed. -/
theorem next_remove (kept : Kept history s) (key : String) :
    (s.automations.remove key).next = s.automations.next := by
  have without := kept.without key
  unfold next
  rw [without.lastId, without.length]

/-- A part of a history has no direct detaches if the whole has none. -/
theorem undetached_of_concat {e : Entry} (undetached : Undetached (history ++ [e])) :
    Undetached history := fun deeds mem => undetached deeds (List.mem_append_left _ mem)

/-- Keys and set fit together after a key was removed. -/
theorem remove (kept : Kept history ⟨a, running⟩) (key : String) :
    Kept (history ++ [.removed key]) ⟨a.remove key, running⟩ := by
  have without := kept.without key
  exact
    { sound := kept.sound.keep without.keeps without.timeline kept.sound.one
      sorted := sorted_remove kept.sorted key
      ids := by
        intro other
        rw [handlerId?_remove, recorded_concat, Entry.after, kept.ids]
        by_cases same : other = key
        · rw [if_pos same, if_pos same.symm]
          rfl
        · rw [if_neg same, if_neg (Ne.symm same)]
      used := by
        intro other x mem
        rw [kept.next_remove]
        exact kept.used other x ((List.mem_append.1 mem).resolve_right (by simp))
      apart := by
        intro k k' x y isX isY same
        exact kept.apart k k' x y (recorded_removed_eq_some.1 isX).2
          (recorded_removed_eq_some.1 isY).2 same
      known := by
        intro x mem
        rw [without.attachments, List.mem_filter] at mem
        obtain ⟨other, isRecorded⟩ := kept.known x mem.1
        refine ⟨other, recorded_removed_eq_some.2 ⟨?_, isRecorded⟩⟩
        rintro rfl
        exact of_decide_eq_true mem.2 isRecorded
      whereabouts := by
        intro other x isRecorded
        obtain ⟨ne, isRecorded⟩ := recorded_removed_eq_some.1 isRecorded
        -- Another key has another handler, so it is not the one that is taken out.
        rcases kept.whereabouts other x isRecorded with mem | ⟨detached, gone⟩
        · rw [without.attachments]
          refine .inl (List.mem_filter.2 ⟨mem, decide_eq_true fun same => ne ?_⟩)
          exact kept.apart key other x x same isRecorded (.inl rfl)
        · exact .inr ⟨detached ∘ undetached_of_concat, without.still_gone _ gone⟩ }

/-- Keys and set fit together after a free key was registered. -/
theorem register (kept : Kept history ⟨a, running⟩) (free : recorded history key = none)
    (h : TriggerHandler) :
    Kept (history ++ [.put key a.next]) ⟨a.register key h, running⟩ := by
  -- ids and serials only grow, so the new attachment is none of the old ones
  have keeps := Dispatcher.keeps_attach a.dispatcher h
  have next_eq : (a.register key h).next = ⟨a.next.id + 1, a.next.serial + 1⟩ := by
    show Attachment.mk _ (a.dispatcher.handlers ++ [h]).length = _
    rw [List.length_append]
    rfl
  have older : ∀ {other : String} {x : Attachment}, recorded history other = some x →
      ¬ (a.next.id = x.id ∨ a.next.serial = x.serial) := by
    intro other x isRecorded same
    have used := kept.used other x (mem_of_recorded isRecorded)
    dsimp only at used
    omega
  exact
    { sound := kept.sound.keep keeps rfl kept.sound.one
      sorted := kept.sorted.insert _ _
      ids := by
        intro other
        rw [handlerId?_register, recorded_concat, Entry.after]
        by_cases same : other = key
        · rw [if_pos same, if_pos same.symm]
          rfl
        · rw [if_neg same, if_neg (Ne.symm same)]
          exact kept.ids other
      used := by
        intro other x mem
        rw [next_eq]
        rcases List.mem_append.1 mem with old | new
        · have used := kept.used other x old
          exact ⟨Nat.lt_succ_of_lt used.1, Nat.lt_succ_of_lt used.2⟩
        · cases List.mem_singleton.1 new
          exact ⟨Nat.lt_succ_self _, Nat.lt_succ_self _⟩
      apart := by
        intro k k' x y isX isY same
        rcases recorded_put_eq_some.1 isX with ⟨rfl, rfl⟩ | ⟨-, isX⟩
        · rcases recorded_put_eq_some.1 isY with ⟨rfl, -⟩ | ⟨-, isY⟩
          · rfl
          · exact absurd same (older isY)
        · rcases recorded_put_eq_some.1 isY with ⟨-, rfl⟩ | ⟨-, isY⟩
          · exact absurd (same.imp Eq.symm Eq.symm) (older isX)
          · exact kept.apart k k' x y isX isY same
      known := by
        intro x mem
        rcases List.mem_append.1 mem with old | new
        · obtain ⟨other, isRecorded⟩ := kept.known x old
          refine ⟨other, recorded_put_eq_some.2 (.inr ⟨?_, isRecorded⟩)⟩
          rintro rfl
          rw [free] at isRecorded
          cases isRecorded
        · exact ⟨key, recorded_put_eq_some.2 (.inl ⟨rfl, (List.mem_singleton.1 new).symm⟩)⟩
      whereabouts := by
        intro other x isRecorded
        rcases recorded_put_eq_some.1 isRecorded with ⟨-, rfl⟩ | ⟨-, isRecorded⟩
        · exact .inl (List.mem_append_right _ (List.mem_singleton.2 rfl))
        · rcases kept.whereabouts other x isRecorded with mem | ⟨detached, gone⟩
          · exact .inl (List.mem_append_left _ mem)
          · exact .inr ⟨detached ∘ undetached_of_concat, (Dispatcher.Change.attach h).gone gone⟩ }

/-- A key that is given to another handler need not be told to be free first. -/
theorem of_removed {x : Attachment} (kept : Kept (history ++ [.removed key] ++ [.put key x]) s) :
    Kept (history ++ [.put key x]) s := by
  have same : ∀ other, recorded (history ++ [.removed key] ++ [.put key x]) other =
      recorded (history ++ [.put key x]) other := by
    intro other
    rw [recorded_concat, recorded_concat, recorded_concat, Entry.after, Entry.after, Entry.after]
    split <;> rfl
  have more : ∀ e ∈ history ++ [Entry.put key x],
      e ∈ history ++ [Entry.removed key] ++ [Entry.put key x] := by
    intro e mem
    rw [List.append_assoc]
    exact (List.mem_append.1 mem).elim (List.mem_append_left _) fun last =>
      List.mem_append_right _ (List.mem_cons_of_mem _ last)
  exact
    { sound := kept.sound
      sorted := kept.sorted
      ids := fun other => same other ▸ kept.ids other
      used := fun other y mem => kept.used other y (more _ mem)
      apart := by
        intro k k' y z
        rw [← same, ← same]
        exact kept.apart k k' y z
      known := by
        intro y mem
        obtain ⟨other, isRecorded⟩ := kept.known y mem
        exact ⟨other, (same other).symm.trans isRecorded⟩
      whereabouts := by
        intro other y isRecorded
        refine (kept.whereabouts other y ((same other).trans isRecorded)).imp_right ?_
        rintro ⟨detached, gone⟩
        refine ⟨fun undetached => detached fun deeds mem => undetached deeds ?_, gone⟩
        simpa using mem }

/-- Keys and set fit together after a handler was put under a key. -/
theorem put (kept : Kept history ⟨a, running⟩) (key : String) (h : TriggerHandler) :
    Kept (history ++ [.put key a.next]) ⟨a.put key h, running⟩ := by
  have free : recorded (history ++ [.removed key]) key = none := by
    rw [recorded_concat]
    exact if_pos rfl
  -- the key is freed first, which nobody needs to be told
  have registered := (kept.remove key).register free h
  rw [kept.next_remove, ← put_eq] at registered
  exact of_removed registered

/-- What happens to the set elsewhere leaves the keys alone, as long as nobody
attaches a handler there. -/
theorem elsewhere {d : Dispatcher} {running' : Option Dispatcher.Running} {deeds : List Deed}
    (kept : Kept history ⟨a, running⟩)
    (move : Dispatcher.Move ⟨a.dispatcher, running⟩ deeds ⟨d, running'⟩)
    (alone : ∀ deed ∈ deeds, ¬ deed.Attaches) :
    Kept (history ++ [.heard deeds]) ⟨{ a with dispatcher := d }, running'⟩ := by
  -- Without an attach the set only gets smaller.
  obtain ⟨shrinks, lastId⟩ := move.set_shrinks alone
  have same : ∀ key, recorded (history ++ [.heard deeds]) key = recorded history key :=
    recorded_concat history _
  exact
    { sound := move.sound kept.sound
      sorted := kept.sorted
      ids := fun key => (same key).symm ▸ kept.ids key
      used := by
        intro key x mem
        have used := kept.used key x ((List.mem_append.1 mem).resolve_right (by simp))
        refine ⟨?_, used.2.trans_le move.grows.length_le⟩
        show x.id < d.set.lastId + 1
        rw [show d.set.lastId = a.dispatcher.set.lastId from lastId]
        exact used.1
      apart := by
        intro k k' x y
        rw [same, same]
        exact kept.apart k k' x y
      known := by
        intro x mem
        obtain ⟨key, isRecorded⟩ := kept.known x (shrinks mem)
        exact ⟨key, (same key).trans isRecorded⟩
      whereabouts := by
        intro key x isRecorded
        rw [same] at isRecorded
        rcases kept.whereabouts key x isRecorded with mem | ⟨detached, gone⟩
        · refine (move.stays_or_gone kept.sound alone mem).imp_right ?_
          rintro ⟨told, gone⟩
          refine ⟨fun undetached => ?_, gone⟩
          exact undetached deeds (List.mem_append_right _ (List.mem_singleton.2 rfl)) x.id told
        · exact .inr ⟨detached ∘ undetached_of_concat, move.gone kept.sound gone⟩ }

/-- Keys and set fit together after every step. -/
theorem step {e : Entry} {t : Stage} (kept : Kept history s) (step : Step s e t) :
    Kept (history ++ [e]) t := by
  cases step with
  | put key h => exact kept.put key h
  | remove key => exact kept.remove key
  | elsewhere move alone => exact kept.elsewhere move alone

end Kept

/-- Keys and set fit together after every run. -/
theorem Run.kept {now : Nat} {history : List Entry} {s : Stage} (run : Run now history s) :
    Kept history s := by
  induction run with
  | nil => exact kept_new now
  | snoc run step ih => exact ih.step step

/-! ### After every run -/

/-- What an operation on one key leaves alone, and what becomes of the handler
that was under that key. -/
structure Spares (a a' : Automations) (key : String) (old : Option Attachment)
    (new : List Attachment) : Prop where
  ids : ∀ other, other ≠ key → a'.handlerId? other = a.handlerId? other
  /-- The old handler is out of the set, and no call waits in it. -/
  gone : ∀ x ∈ old, ¬ a'.dispatcher.set.contains x.id = true ∧ a'.dispatcher.Gone x.serial
  /-- The other handlers keep their order. -/
  order : a'.dispatcher.set.attachments =
    (a.dispatcher.set.attachments.filter fun x => old ≠ some x) ++ new
  /-- The other handlers keep the calls that wait in them, and the timers that
  will deliver these. -/
  handlers : ∀ serial < a.dispatcher.handlers.length, (∀ x ∈ old, x.serial ≠ serial) →
    a'.dispatcher.handlers[serial]? = a.dispatcher.handlers[serial]?
  timeline : a'.dispatcher.timeline = a.dispatcher.timeline

/-- Keys and set, and what can be done with them next. -/
structure InStep (history : List Entry) (s : Stage) : Prop where
  ids : ∀ key, s.automations.handlerId? key = (recorded history key).map Attachment.id
  distinct : ∀ key other id, s.automations.handlerId? key = some id →
    s.automations.handlerId? other = some id → key = other
  one_key : ∀ x ∈ s.automations.dispatcher.set.attachments, ∃! key, recorded history key = some x
  /-- While no handler is detached without its key, the ids of the keys are those
  of the set. -/
  same_ids : Undetached history →
    (∀ id, (∃ key, s.automations.handlerId? key = some id) ↔
      s.automations.dispatcher.set.contains id = true) ∧
    s.automations.size = s.automations.dispatcher.set.size
  /-- The next handler gets an id that none had, and stands behind it. -/
  put : ∀ key h, (s.automations.put key h).handlerId? key = some s.automations.next.id ∧
    (∀ other x, .put other x ∈ history → x.id < s.automations.next.id) ∧
    (s.automations.put key h).dispatcher.handlers[s.automations.next.serial]? = some h ∧
    Spares s.automations (s.automations.put key h) key (recorded history key)
      [s.automations.next]
  remove : ∀ key, ((s.automations.withdraw key).1 = true ↔ ∃ x, recorded history key = some x) ∧
    (s.automations.withdraw key).2.handlerId? key = none ∧
    Spares s.automations (s.automations.withdraw key).2 key (recorded history key) []

namespace Kept

variable {history : List Entry} {s : Stage}

/-- A key has the handler that is recorded under it. -/
theorem recorded_of_handlerId? (kept : Kept history s) {key : String} {id : Nat}
    (h : s.automations.handlerId? key = some id) : ∃ x, recorded history key = some x ∧ x.id = id :=
  Option.map_eq_some_iff.1 ((kept.ids key).symm.trans h)

/-- No two keys have the same handler. -/
theorem distinct (kept : Kept history s) {key other : String} {id : Nat}
    (h : s.automations.handlerId? key = some id) (h' : s.automations.handlerId? other = some id) :
    key = other := by
  obtain ⟨x, isX, idX⟩ := kept.recorded_of_handlerId? h
  obtain ⟨y, isY, idY⟩ := kept.recorded_of_handlerId? h'
  exact kept.apart key other x y isX isY (.inl (idX.trans idY.symm))

/-- Without direct detaches, the ids in the set are those that the keys have. -/
theorem contains_iff (kept : Kept history s) (undetached : Undetached history) (id : Nat) :
    (∃ key, s.automations.handlerId? key = some id) ↔
      s.automations.dispatcher.set.contains id = true := by
  rw [HandlerSet.contains_iff]
  constructor
  · rintro ⟨key, h⟩
    obtain ⟨x, isRecorded, rfl⟩ := kept.recorded_of_handlerId? h
    have mem := (kept.whereabouts key x isRecorded).resolve_right fun out => out.1 undetached
    exact ⟨x, mem, rfl⟩
  · rintro ⟨x, mem, rfl⟩
    obtain ⟨key, isRecorded⟩ := kept.known x mem
    exact ⟨key, by rw [kept.ids, isRecorded, Option.map_some]⟩

/-- Keys and set list the same ids, each once. -/
theorem size_eq (kept : Kept history s) (undetached : Undetached history) :
    s.automations.size = s.automations.dispatcher.set.size := by
  have once := kept.sorted.nodup_keys
  have ids : (s.automations.keys.map Prod.snd).Nodup := by
    refine List.Nodup.map_on ?_ (List.Nodup.of_map _ once)
    rintro ⟨key, id⟩ mem ⟨other, id'⟩ mem' same
    obtain rfl : id = id' := same
    rw [Dict.mem_iff_find? once] at mem mem'
    rw [kept.distinct mem mem']
  have same : (s.automations.keys.map Prod.snd).Perm
      (s.automations.dispatcher.set.attachments.map Attachment.id) := by
    refine (List.perm_ext_iff_of_nodup ids kept.sound.set.ids).2 fun id => ?_
    have listed : id ∈ s.automations.keys.map Prod.snd ↔
        ∃ key, s.automations.handlerId? key = some id := by
      rw [List.mem_map]
      constructor
      · rintro ⟨⟨key, _⟩, mem, rfl⟩
        exact ⟨key, (Dict.mem_iff_find? once).1 mem⟩
      · rintro ⟨key, h⟩
        exact ⟨(key, id), (Dict.mem_iff_find? once).2 h, rfl⟩
    rw [listed, kept.contains_iff undetached, HandlerSet.contains_iff, List.mem_map]
    exact Iff.rfl
  -- two lists of the same ids, none twice, are as long as each other
  have lengths := same.length_eq
  rwa [List.length_map, List.length_map] at lengths

/-- Removing a key spares all other keys. -/
theorem spares_remove (kept : Kept history s) (key : String) :
    Spares s.automations (s.automations.remove key) key (recorded history key) [] := by
  have without := kept.without key
  exact
    { ids := by
        intro other ne
        rw [handlerId?_remove, if_neg ne]
      gone := fun x mem => (without.gone x mem).symm
      order := without.attachments.trans (List.append_nil _).symm
      handlers := fun serial _ other => without.others serial other
      timeline := without.timeline }

/-- Putting a handler under a key spares all other keys. -/
theorem spares_put (kept : Kept history s) (key : String) (h : TriggerHandler) :
    Spares s.automations (s.automations.put key h) key (recorded history key)
      [s.automations.next] := by
  have removed := kept.spares_remove key
  have without := kept.without key
  have attached : (s.automations.put key h).dispatcher.set.attachments =
      (s.automations.remove key).dispatcher.set.attachments ++ [s.automations.next] := by
    rw [← kept.next_remove key]
    rfl
  exact
    { ids := by
        intro other ne
        rw [put_eq, handlerId?_register, if_neg ne]
        exact removed.ids other ne
      gone := by
        intro x mem
        obtain ⟨unknown, gone⟩ := removed.gone x mem
        refine ⟨fun known => ?_, (Dispatcher.Change.attach h).gone gone⟩
        obtain ⟨y, memY, same⟩ := HandlerSet.contains_iff.1 known
        rw [attached] at memY
        rcases List.mem_append.1 memY with old | new
        · exact unknown (HandlerSet.contains_iff.2 ⟨y, old, same⟩)
        · have used := (kept.used key x (mem_of_recorded mem)).1
          rw [List.mem_singleton.1 new] at same
          omega
      order := by rw [attached, removed.order, List.append_nil]
      handlers := by
        intro serial lt other
        rw [← removed.handlers serial lt other]
        exact List.getElem?_append_left (without.length.symm ▸ lt)
      timeline := removed.timeline }

end Kept

/-- Whatever is done with keys, and whoever is detached without one: each key has
the id of the handler that was put there last, no two keys have the same id, and
each handler of the set is under exactly one key; while nobody is detached
without a key, keys and set have the same ids. A handler that is put under a key
gets a new id, and the one that was there is out of the set with its call that
waited, also if it was detached before. To remove a key says whether it was
there. The other keys and handlers are left alone. -/
theorem keys_and_handlers {now : Nat} {history : List Entry} {s : Stage}
    (run : Run now history s) : InStep history s := by
  have kept := run.kept
  refine ⟨kept.ids, fun key other id => kept.distinct, ?_, fun undetached =>
    ⟨kept.contains_iff undetached, kept.size_eq undetached⟩, ?_, ?_⟩
  · intro x mem
    obtain ⟨key, isRecorded⟩ := kept.known x mem
    refine ⟨key, isRecorded, fun other isOther => ?_⟩
    exact kept.apart other key x x isOther isRecorded (.inl rfl)
  · intro key h
    refine ⟨?_, fun other x mem => (kept.used other x mem).1, ?_, kept.spares_put key h⟩
    · rw [put_eq, handlerId?_register, if_pos rfl, kept.next_remove]
    · have length : s.automations.next.serial =
          (s.automations.remove key).dispatcher.handlers.length := (kept.without key).length.symm
      rw [length]
      exact List.getElem?_concat_length
  · intro key
    refine ⟨?_, ?_, kept.spares_remove key⟩
    · show (s.automations.handlerId? key).isSome = true ↔ _
      rw [kept.ids, Option.isSome_map, Option.isSome_iff_exists]
    · show (s.automations.remove key).handlerId? key = none
      rw [handlerId?_remove, if_pos rfl]

/-- The porch has a call that waits, and the hall was detached without its key.
Then the porch is given to another handler. -/
theorem keys_and_handlers_porch :
    let h : TriggerHandler := .ofRules .empty 10 (.script (.plain "s"))
    ∃ history s, Run 0 history s ∧
      (s.automations.dispatcher.handlers[0]?.map TriggerHandler.isPending) = some true ∧
      s.automations.handlerId? "hall" = some 2 ∧
      ¬ s.automations.dispatcher.set.contains 2 = true ∧
      (∃! key, recorded history key = some ⟨1, 0⟩) ∧
      (s.automations.put "porch" h).handlerId? "porch" = some 3 ∧
      (s.automations.put "porch" h).handlerId? "hall" = some 2 ∧
      (s.automations.put "porch" h).dispatcher.Gone 0 ∧
      (s.automations.withdraw "hall").1 = true ∧ ¬ (s.automations.withdraw "attic").1 = true := by
  intro h
  have new : Run 0 [] ⟨.new 0, none⟩ := .nil
  have porch := new.snoc (.put "porch" h)
  have begun := porch.snoc (.elsewhere (.begin .request Dispatcher.bareChange rfl) (by decide))
  have opened := begun.snoc (.elsewhere (.turn rfl (.opens rfl rfl)) (by decide))
  have closed := opened.snoc (.elsewhere (.closes rfl) (by decide))
  have hall := closed.snoc (.put "hall" h)
  have run := hall.snoc (.elsewhere (.change none (.detach 2)) (by decide))
  have law := keys_and_handlers run
  refine ⟨_, _, run, rfl, rfl, by decide, law.one_key _ List.mem_cons_self, (law.put "porch" h).1,
    ((law.put "porch" h).2.2.2.ids "hall" (by decide)).trans rfl,
    ((law.put "porch" h).2.2.2.gone ⟨1, 0⟩ rfl).2, (law.remove "hall").1.2 ⟨⟨2, 1⟩, rfl⟩, ?_⟩
  rintro known
  obtain ⟨x, isRecorded⟩ := (law.remove "attic").1.1 known
  cases isRecorded

end Automations

end HubAutomation
