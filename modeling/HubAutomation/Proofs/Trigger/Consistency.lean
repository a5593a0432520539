import HubAutomation.Proofs.Json.EqualValues
import HubAutomation.Proofs.Trigger.ChainMeaning
import HubAutomation.Proofs.Trigger.Watching

/-!
# Chains do not contradict themselves

A value that a field leaves or reaches is asked for on one side to qualify and
on the other side to cancel. A change that did both would have it on both
sides, but then the field would not have changed.

- `Field.not_differs`: a field with one value on both sides has not changed.
- `Chain.consistent`: no event contradicts a handler made of a chain.
-/

namespace HubAutomation

/-- A field that has one value on both sides has not changed. -/
theorem Field.not_differs {field : Field} {value : Json} {change : StateChange}
    (old : field.Is .old value change) (new : field.Is .new value change) :
    ¬ field.Differs change := by
  unfold Field.Differs
  rw [sameValue_of_same old new]
  exact Bool.noConfusion

namespace Chain

variable {subject : Subject} {steps : List Step} {d : Draft}

/-- The rules of a chain do not qualify and cancel at once. -/
theorem Means.exclusive (m : Means subject steps d) (change : StateChange) :
    ¬ (d.rules.allCall change = true ∧ d.rules.allCancel change = true) := by
  rintro ⟨calls, cancels⟩
  obtain ⟨-, differs, leftOld, reachedNew⟩ := (m.calls change).1 calls
  obtain ⟨⟨f, v, leaves | reaches⟩, -, leftNew, reachedOld⟩ := (m.cancels change).1 cancels
  · exact Field.not_differs (leftOld f v leaves) (leftNew f v leaves)
      (differs f (.inr ⟨v, .inl leaves⟩))
  · exact Field.not_differs (reachedOld f v reaches) (reachedNew f v reaches)
      (differs f (.inr ⟨v, .inr reaches⟩))

theorem judge_ne_contradiction {rules : RuleSet} {timeout : Nat} {change : StateChange}
    (exclusive : ¬ (rules.allCall change = true ∧ rules.allCancel change = true)) :
    rules.judge timeout change ≠ .contradiction := by
  unfold RuleSet.judge
  cases calls : rules.allCall change with
  | false => cases timeout ≠ 0 && rules.allCancel change <;> exact nofun
  | true =>
    have no : rules.allCancel change = false := by
      cases cancels : rules.allCancel change with
      | false => rfl
      | true => exact absurd ⟨calls, cancels⟩ exclusive
    rw [no, Bool.and_false]
    exact nofun

theorem meet_failed {h : TriggerHandler} {event : Event StateChange}
    (ne : h.rules.judge h.timeout event.data ≠ .contradiction) (now : Nat) :
    (h.meet now event).failed = false := by
  unfold TriggerHandler.meet
  cases verdict : h.rules.judge h.timeout event.data with
  | contradiction => exact absurd verdict ne
  | qualifies | cancels | nothing => rfl

/-- No event contradicts a handler that was made of a chain, whatever its window
and whatever it has seen before. -/
theorem consistent (compiled : Draft.compile subject steps = .ok d) (apart : Apart subject steps) :
    (∀ change, ¬ (d.rules.allCall change = true ∧ d.rules.allCancel change = true)) ∧
    (∀ h : TriggerHandler, h.rules = d.rules → ∀ now event, (h.meet now event).failed = false) ∧
    ∀ callback acts event,
      ∃ w, ((Watch.ofHandler (.ofDraft d callback)).actAll acts).observe event = .ok w := by
  have exclusive := (means_of_compile compiled apart).exclusive
  have never : ∀ h : TriggerHandler, h.rules = d.rules → ∀ now event,
      (h.meet now event).failed = false := fun h rules now event =>
    meet_failed (judge_ne_contradiction (rules ▸ exclusive event.data)) now
  refine ⟨exclusive, never, fun callback acts event => ?_⟩
  -- On a clock the handler fails only where it fails alone.
  cases observed : ((Watch.ofHandler (.ofDraft d callback)).actAll acts).observe event with
  | ok w => exact ⟨w, rfl⟩
  | error error =>
    have failed := (Watch.handler_act _ event).1.2 ⟨error, observed⟩
    rw [never _ (Watch.rules_actAll _ acts)] at failed
    cases failed

theorem consistent_hasBeenOff :
    ∃ d, Draft.compile (.entity "light.lamp") hasBeenOff = .ok d ∧
      Apart (.entity "light.lamp") hasBeenOff ∧
      ∀ callback acts event,
        ∃ w, ((Watch.ofHandler (.ofDraft d callback)).actAll acts).observe event = .ok w := by
  obtain ⟨d, compiled⟩ := hasBeenOff_compile
  exact ⟨d, compiled, hasBeenOff_apart, (consistent compiled hasBeenOff_apart).2.2⟩

end Chain

end HubAutomation
