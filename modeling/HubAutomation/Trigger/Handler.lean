import HubAutomation.Trigger.Callback
import HubAutomation.Trigger.Chain
import HubAutomation.Trigger.Debouncer

/-!
# Handlers

A handler is a sealed trigger: rules in front of a debounced callback.

- `Verdict`: what an event means to a handler.
- `TriggerHandler`: the rules, the callback and the debouncer.
- `TriggerHandler.meet`: show an event to a handler.
-/

namespace HubAutomation

/-- What an event means to a handler. -/
inductive Verdict where
  /-- The event qualifies and cancels at once. -/
  | contradiction
  | qualifies
  | cancels
  | nothing
deriving DecidableEq

namespace RuleSet

/-- What a change means to rules with a window. Without a window there is
nothing to cancel. -/
def judge (s : RuleSet) (timeout : Nat) (change : StateChange) : Verdict :=
  match s.allCall change, timeout ≠ 0 && s.allCancel change with
  | true, true => .contradiction
  | true, false => .qualifies
  | false, true => .cancels
  | false, false => .nothing

end RuleSet

/-- A sealed trigger. -/
structure TriggerHandler where
  rules : RuleSet
  callback : Callback
  debouncer : Debouncer (Event StateChange)

namespace TriggerHandler

/-- Seal rules and a window around a callback. -/
def ofRules (rules : RuleSet) (timeout : Nat) (callback : Callback) : TriggerHandler :=
  ⟨rules, callback, .new timeout⟩

/-- Seal a trigger in the making. -/
def ofDraft (d : Draft) (callback : Callback) : TriggerHandler := ofRules d.rules d.timeout callback

def timeout (h : TriggerHandler) : Nat := h.debouncer.timeout

def isPending (h : TriggerHandler) : Bool := h.debouncer.isPending

/-- Give up the call that waits, and say whether there was one. -/
def cancel (h : TriggerHandler) : Bool × TriggerHandler :=
  (h.debouncer.cancel.1, { h with debouncer := h.debouncer.cancel.2 })

/-- What comes of showing an event to a handler. -/
structure Meeting where
  handler : TriggerHandler
  /-- Whether the rules contradict each other; nothing else happens then. -/
  failed : Bool
  effect : Option (CallEffect (Event StateChange))

/-- Show an event to a handler: withdraw the call that waits if the event
qualifies or cancels, and call anew if it qualifies. -/
def meet (h : TriggerHandler) (now : Nat) (event : Event StateChange) : Meeting :=
  match h.rules.judge h.timeout event.data with
  | .contradiction => ⟨h, true, none⟩
  | .nothing => ⟨h, false, none⟩
  | .cancels => ⟨h.cancel.2, false, none⟩
  | .qualifies =>
    let (debouncer, effect) := h.debouncer.cancel.2.call now event
    ⟨{ h with debouncer }, false, some effect⟩

/-! ### Text -/

/-- The bytes of a digest and the rule. -/
def ruleEntry (r : Rule) : String :=
  "[" ++ ", ".intercalate (r.digest.bytes.map fun b => toString b.toNat) ++ "]: " ++ r.text

def ruleList (rules : List Rule) : String :=
  "\x7b" ++ ", ".intercalate (rules.map ruleEntry) ++ "\x7d"

/-- The whole handler as text. -/
def text (h : TriggerHandler) : String :=
  "TriggerHandler \x7b rules: RuleSet \x7b call: " ++ ruleList h.rules.call ++ ", scope: " ++
    ruleList h.rules.scope ++ ", cancel: " ++ ruleList h.rules.cancel ++ " \x7d, timeout: " ++
    Span.text h.timeout ++ ", phase: " ++ h.debouncer.phase.text ++ " \x7d"

end TriggerHandler

/-- The trigger that logs every change. -/
def stateLogger : Except ChainError TriggerHandler :=
  (Draft.compile .everything [.changes]).map fun d => .ofDraft d .logState

end HubAutomation
