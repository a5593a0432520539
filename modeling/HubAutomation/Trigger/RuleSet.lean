import HubAutomation.Trigger.Rule

/-!
# Rule sets

The rules of a trigger in three groups. All call rules together let an event
qualify. Cancel rules, within the bounds that the scope rules set, let an event
withdraw a call that waits. Within a group a rule stands once, at the place
where it was added first.

- `RuleSet`: the three groups.
- `RuleSet.add`: add a rule to a group.
- `RuleSet.allCall`, `RuleSet.allCancel`: what an event means to the trigger.
-/

namespace HubAutomation

/-- The groups of rules. -/
inductive RuleGroup where
  | call
  | scope
  | cancel
deriving DecidableEq

/-- The rules of a trigger. -/
structure RuleSet where
  call : List Rule
  scope : List Rule
  cancel : List Rule

namespace RuleSet

def empty : RuleSet := ⟨[], [], []⟩

/-- Whether a rule stands in a list. -/
def contains (rules : List Rule) (r : Rule) : Bool := rules.any r.same

/-- Add a rule at the end of a list unless it stands there. -/
def insert (rules : List Rule) (r : Rule) : List Rule :=
  if contains rules r then rules else rules ++ [r]

/-- The rules of a group. -/
def group (s : RuleSet) : RuleGroup → List Rule
  | .call => s.call
  | .scope => s.scope
  | .cancel => s.cancel

/-- Add a rule to a group. -/
def add (s : RuleSet) (g : RuleGroup) (r : Rule) : RuleSet :=
  match g with
  | .call => { s with call := insert s.call r }
  | .scope => { s with scope := insert s.scope r }
  | .cancel => { s with cancel := insert s.cancel r }

/-- Whether adding a rule to a group would change it. -/
def isNew (s : RuleSet) (g : RuleGroup) (r : Rule) : Bool := !contains (s.group g) r

/-- Add the rule of a condition. -/
def addCondition (s : RuleSet) (g : RuleGroup) (c : Condition) : RuleSet := s.add g (.ofCondition c)

/-- Every call rule holds. -/
def allCall (s : RuleSet) (change : StateChange) : Bool := s.call.all (·.holds change)

/-- There is a cancel rule, and every scope and cancel rule holds. -/
def allCancel (s : RuleSet) (change : StateChange) : Bool :=
  !s.cancel.isEmpty && s.scope.all (·.holds change) && s.cancel.all (·.holds change)

theorem allCall_eq_true {s : RuleSet} {change : StateChange} :
    s.allCall change = true ↔ ∀ r ∈ s.call, r.holds change = true := List.all_eq_true

theorem allCancel_eq_true {s : RuleSet} {change : StateChange} :
    s.allCancel change = true ↔ s.cancel ≠ [] ∧ (∀ r ∈ s.scope, r.holds change = true) ∧
      ∀ r ∈ s.cancel, r.holds change = true := by
  simp [allCancel, and_assoc]

@[simp] theorem group_add_self (s : RuleSet) (g : RuleGroup) (r : Rule) :
    (s.add g r).group g = insert (s.group g) r := by
  cases g <;> rfl

theorem group_add_other (s : RuleSet) {g h : RuleGroup} (r : Rule) (ne : h ≠ g) :
    (s.add g r).group h = s.group h := by
  cases g <;> cases h <;> first | rfl | exact absurd rfl ne

end RuleSet

end HubAutomation
