import HubAutomation.Proofs.Trigger.PlannedEnds
import HubAutomation.Proofs.Trigger.SilentHandlers

/-!
# Handlers that are taken out

From the moment on at which a handler is taken out, no timer begins a delivery to
it, and a dispatch only if it began before. What has begun runs to its end.

- `Step.seen`: what is seen of callbacks is what is told of them.
- `Dispatcher.detached_for_good`: what happens to a handler after it was taken
  out.
-/

namespace HubAutomation

namespace Dispatcher

variable {d d' : Dispatcher} {s t : Stage} {marks : List Mark}

/-! ### What is seen -/

/-- Of a detach nothing is seen. -/
theorem seen_detach (d : Dispatcher) (id : Nat) :
    (d.detach id).seen = d.seen ++ (d.detachMarks id).flatMap Mark.seen := by
  unfold detach detachMarks
  cases d.set.find? id with
  | some a => exact (List.append_nil _).symm
  | none => exact (List.append_nil _).symm

theorem seen_replace (d : Dispatcher) (id : Nat) (h : TriggerHandler) :
    (d.replace id h).seen = d.seen ++ (d.detachMarks id).flatMap Mark.seen := by
  unfold replace detachMarks
  cases d.set.find? id with
  | some a => exact (List.append_nil _).symm
  | none => exact (List.append_nil _).symm

theorem seen_release (d : Dispatcher) (a : Attachment) : (d.release a).seen = d.seen := by
  unfold release
  split <;> rfl

/-- What a callback does at its beginning is seen. -/
theorem seen_start (d : Dispatcher) (origin : DeliveryOrigin) (own : Nat) (callback : Callback)
    (event : Event StateChange) : (d.start own callback event).seen =
      d.seen ++ (d.startMarks origin own callback event).flatMap Mark.seen := by
  unfold start startMarks
  dsimp only
  rw [List.flatMap_cons]
  cases callback.detaches? with
  | none =>
    show d.seen ++ _ = _
    rw [Option.toList_none, List.flatMap_nil, List.flatMap_nil, List.append_nil]
    rfl
  | some id =>
    have taken := seen_detach (d.see own (callback.delivery.start d.now event)) id
    dsimp only
    rw [taken, Option.toList_some, List.flatMap_cons, List.flatMap_nil, List.append_nil,
      ← List.append_assoc]
    rfl

/-- What is seen of a delivery is seen at its beginning. -/
theorem seen_deliver (d : Dispatcher) (own timer : Nat) (callback : Callback)
    (event : Event StateChange) :
    (d.deliver own timer callback event).seen = (d.start own callback event).seen := by
  unfold deliver
  dsimp only
  split <;> rfl

/-- What is seen of a step is what is told of it. -/
theorem Step.seen (step : Step s marks t) :
    t.dispatcher.seen = s.dispatcher.seen ++ marks.flatMap Mark.seen := by
  cases step with
  | attach rules timeout callback => exact (List.append_nil _).symm
  | detach id => exact seen_detach _ id
  | replace id rules timeout callback => exact seen_replace _ id _
  | begin owner event idle => exact (List.append_nil _).symm
  | collect taken =>
    rw [eq_of_takeReport? taken]
    exact (List.append_nil _).symm
  | wait limit ahead => exact (List.append_nil _).symm
  | ring next ring =>
    cases ring with
    | lapses => exact (List.append_nil _).symm
    | delivers at_ woken => exact (seen_deliver _ _ _ _ _).trans (seen_start _ .timer _ _ _)
    | ends runs =>
      rw [List.flatMap_singleton]
      rfl
    | stops stopped => exact (List.append_nil _).symm
    | resumes =>
      rw [seen_release, List.flatMap_singleton]
      rfl
  | turn first turn =>
    cases turn with
    | missing => exact (List.append_nil _).symm
    | quiet at_ effect => exact (seen_release _ _).trans (List.append_nil _).symm
    | opens at_ effect => exact (seen_release _ _).trans (List.append_nil _).symm
    | calls at_ effect atOnce => exact (seen_release _ _).trans (seen_start _ .inline _ _ _)
    | holdsUp at_ effect wakes => exact seen_start _ .inline _ _ _
  | closes done => exact (List.append_nil _).symm

/-- What is seen in a run is what is told of it. -/
theorem Run.seen (run : Run s marks t) :
    t.dispatcher.seen = s.dispatcher.seen ++ marks.flatMap Mark.seen := by
  induction run with
  | nil => exact (List.append_nil _).symm
  | snoc run step ih => rw [step.seen, ih, List.flatMap_append, List.append_assoc]

/-! ### After a handler was taken out -/

/-- Once a handler is taken out, no timer begins a delivery to it, and no
dispatch that begins later. All along, a delivery that takes time ends when its
time has come, or an alarm is set for its end; and what is seen of callbacks is
what begins and ends. -/
theorem detached_for_good {now : Nat} (run : Run ⟨new now, none⟩ marks s) :
    (∀ {before after : List Mark} {serial : Nat}, marks = before ++ .detached serial :: after →
      (∀ mark ∈ after, ¬ mark.Begins .timer serial) ∧
        ∀ {first second : List Mark}, after = first ++ .dispatched :: second →
          ∀ mark ∈ second, ¬ mark.Begins .inline serial) ∧
      (marks.filterMap Mark.end? ++ s.dispatcher.planned).Perm (marks.filterMap Mark.planned?) ∧
      (∀ p ∈ s.dispatcher.planned, s.dispatcher.now ≤ p.due) ∧
      s.dispatcher.seen = marks.flatMap Mark.seen := by
  have sound := sound_new now
  refine ⟨?_, run.planned sound, ?_, run.seen⟩
  · intro before after serial told
    have out := run.takenOut sound told
    exact ⟨out.noTimer, out.noInline⟩
  · intro p mem
    obtain ⟨alarm, isSet, ends⟩ := List.mem_filterMap.1 mem
    have ahead := (run.sound sound).ahead alarm isSet
    rwa [due_of_planned? ends]

/-- A change without its states. -/
def bareChange : Event StateChange where
  type := stateChanged
  data := ⟨⟨"switch", "pump", by decide, by decide⟩, none, none⟩
  origin := .local
  timeFired := ⟨⟨2024, 3, 1⟩, 18, 2, 11, 0⟩
  context := .withId "01HQ"

/-- A callback that takes the second handler out and then sleeps. -/
def jealous : Callback := .script ⟨"jealous", some 2, none, some 5, .success⟩

/-- The second handler is taken out in the middle of a dispatch that still has it
to come. It is shown the event and opens a window, but nothing comes of it. -/
theorem detached_for_good_mid_dispatch :
    ∃ marks s, Run ⟨new 0, none⟩ marks s ∧
      marks = [.dispatched, .begun .inline 0 jealous 0 bareChange, .detached 1,
        .ended 0 jealous 5 bareChange] ∧
      s.dispatcher.now = 100 ∧
      (∀ mark ∈ [Mark.ended 0 jealous 5 bareChange], ¬ mark.Begins .timer 1) ∧
      s.dispatcher.seen =
        [⟨0, .called "jealous" 0 bareChange⟩, ⟨0, .woke "jealous" 5 bareChange⟩] := by
  have attached := (Run.nil (s := ⟨new 0, none⟩)).snoc (.attach .empty 0 jealous)
  have both := attached.snoc (.attach .empty 10 (.script (.plain "second")))
  have begun := both.snoc (.begin .request bareChange rfl)
  have heldUp := begun.snoc (.turn rfl (.holdsUp (h := .ofRules .empty 0 jealous) rfl rfl rfl))
  have resumed := heldUp.snoc (.ring rfl .resumes)
  have evaluated := resumed.snoc (.turn rfl (.opens rfl rfl))
  have closed := evaluated.snoc (.closes rfl)
  have lapsed := closed.snoc (.ring rfl (.lapses fun h at_ => by cases at_; rfl))
  have run := lapsed.snoc (.wait 100 fun _ mem => absurd mem List.not_mem_nil)
  obtain ⟨out, -, -, seen⟩ := detached_for_good run
  refine ⟨_, _, run, rfl, rfl, ?_, seen.trans rfl⟩
  exact (@out [_, _] _ _ rfl).1

end Dispatcher

end HubAutomation
