import HubAutomation.Time.Unit
import HubAutomation.Trigger.Error
import HubAutomation.Trigger.RuleSet

/-!
# Trigger chains

A trigger is put together step by step: first what it is about, then what has
to change, from which value and to which, and last for how long. Each step is
possible at certain stages only and leads to another one.

- `Subject`: what a trigger is about.
- `Step`: the steps.
- `Stage.next?`: the stage that a step leads to.
- `Draft`: a trigger in the making, and `Draft.compile`: the draft of a chain.
-/

namespace HubAutomation

/-- What a trigger is about. -/
inductive Subject where
  /-- One entity, by its text. -/
  | entity (text : String)
  | everything
  /-- What a predicate of the user's picks; it is known by a name. -/
  | custom (name : String) (predicate : StateChange → Bool)

/-- How far a trigger in the making has come. -/
inductive Stage where
  | start
  | changed
  | from
  | to
  | fromTo
  | timed
  /-- The predicate owns all the logic. -/
  | custom
deriving DecidableEq

/-- A step of a chain. -/
inductive Step where
  /-- Any change. -/
  | changes
  | changesOf (field : Field)
  /-- The field was the value and is no longer. -/
  | leaves (field : Field) (value : Json)
  /-- The field was not the value and is now. -/
  | reaches (field : Field) (value : Json)
  /-- The state becomes the value. -/
  | turns (value : Json)
  /-- The rules have held for a time; the unit is given by name. -/
  | lasts (amount : Nat) (unit : String)
  /-- A word that is no step. -/
  | other (name : String)

namespace Stage

/-- The stage that a step leads to, if it is possible. -/
def next? (stage : Stage) (step : Step) : Option Stage :=
  match step, stage with
  | .changes, .start | .changesOf _, .start => some .changed
  | .leaves _ _, .start | .leaves _ _, .changed => some .from
  | .leaves _ _, .to => some .fromTo
  | .reaches _ _, .start | .reaches _ _, .changed => some .to
  | .reaches _ _, .from => some .fromTo
  | .turns _, .start => some .to
  | .lasts _ _, .custom => none
  | .lasts _ _, _ => some .timed
  | _, _ => none

end Stage

/-- A trigger in the making. -/
structure Draft where
  rules : RuleSet
  /-- How long the rules must have held, in milliseconds. -/
  timeout : Nat
  stage : Stage

/-- Why a chain makes no trigger. -/
inductive ChainError where
  /-- The step with this number is not possible at its stage. -/
  | impossible (step : Nat)
  | trigger (cause : TriggerError)
deriving DecidableEq

namespace Draft

/-- The draft of a subject. The filter on an entity is a scope rule as well. -/
def start : Subject → Except TriggerError Draft
  | .everything => .ok ⟨RuleSet.empty.addCondition .call .always, 0, .start⟩
  | .entity text =>
    match EntityId.parse text with
    | .ok id =>
      .ok ⟨(RuleSet.empty.addCondition .call (.entity id)).addCondition .scope (.entity id), 0, .start⟩
    | .error _ => .error (.entityId text)
  | .custom name predicate =>
    .ok ⟨RuleSet.empty.addCondition .call (.custom name predicate), 0, .custom⟩

/-- The rules of leaving a value. Returning to it withdraws a call. -/
def addLeaves (s : RuleSet) (field : Field) (value : Json) : RuleSet :=
  ((s.addCondition .call (.fieldChanged field)).addCondition .call
    (.equals .old field value)).addCondition .cancel (.equals .new field value)

/-- The rules of reaching a value. Leaving it withdraws a call. -/
def addReaches (s : RuleSet) (field : Field) (value : Json) : RuleSet :=
  ((s.addCondition .call (.fieldChanged field)).addCondition .call
    (.equals .new field value)).addCondition .cancel (.equals .old field value)

/-- The rules after a step. -/
def addStep (s : RuleSet) : Step → RuleSet
  | .changesOf field => s.addCondition .call (.fieldChanged field)
  | .leaves field value => addLeaves s field value
  | .reaches field value => addReaches s field value
  | .turns value => addReaches (s.addCondition .call (.fieldChanged .state)) .state value
  | .changes | .lasts _ _ | .other _ => s

/-- The window after a step; the last one counts. -/
def timeoutAfter (timeout : Nat) : Step → Except TriggerError Nat
  | .lasts amount unit =>
    match TimeUnit.ofName? unit with
    | some unit => .ok (unit.milliseconds amount)
    | none => .error (.timeUnit unit)
  | _ => .ok timeout

/-- The draft after the step with the given number. -/
def apply (d : Draft) (number : Nat) (step : Step) : Except ChainError Draft :=
  match d.stage.next? step with
  | none => .error (.impossible number)
  | some stage =>
    match timeoutAfter d.timeout step with
    | .ok timeout => .ok ⟨addStep d.rules step, timeout, stage⟩
    | .error cause => .error (.trigger cause)

/-- The draft after some steps, the first of which has the given number. -/
def applyAll (d : Draft) : (number : Nat) → List Step → Except ChainError Draft
  | _, [] => .ok d
  | number, step :: rest =>
    match d.apply number step with
    | .ok d => applyAll d (number + 1) rest
    | .error e => .error e

/-- The draft of a chain. -/
def compile (subject : Subject) (steps : List Step) : Except ChainError Draft :=
  match start subject with
  | .ok d => d.applyAll 0 steps
  | .error cause => .error (.trigger cause)

end Draft

end HubAutomation
