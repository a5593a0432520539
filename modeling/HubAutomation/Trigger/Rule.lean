import HubAutomation.Digest
import HubAutomation.Json.Printer
import HubAutomation.StateChange

/-!
# Rules

A rule is a predicate on state changes. It carries the digest of the parameters
that define it, so that rules can be told apart without looking at them.

- `Condition`: what a rule asks, and `Condition.holds`: whether a change meets it.
- `Condition.fingerprint`: the bytes of the parameters.
- `Rule`: a condition with the digest of its fingerprint.
-/

namespace HubAutomation

/-- Which snapshot of a change a rule looks at. -/
inductive Side where
  | old
  | new
deriving DecidableEq

namespace Side

def snapshot? (side : Side) (change : StateChange) : Option State :=
  match side with
  | .old => change.old
  | .new => change.new

def text : Side → String
  | .old => "old_state"
  | .new => "new_state"

end Side

/-- A part of a snapshot. -/
inductive Field where
  | state
  | attribute (name : String)
  | lastChanged
  | lastUpdated
deriving DecidableEq

namespace Field

def text : Field → String
  | .state => "state"
  | .attribute name => "attributes." ++ name
  | .lastChanged => "last_changed"
  | .lastUpdated => "last_updated"

/-- The value of a field in a snapshot; an attribute may be missing. -/
def extract? (field : Field) (s : State) : Option Json :=
  match field with
  | .state => some (.string s.value)
  | .attribute name => s.attributes.find? name
  | .lastChanged => some s.lastChanged.toJson
  | .lastUpdated => some s.lastUpdated.toJson

/-- The value of a field on one side of a change. -/
def read? (field : Field) (side : Side) (change : StateChange) : Option Json :=
  (side.snapshot? change).bind field.extract?

end Field

/-- Equality of values that may be missing. -/
def sameValue : Option Json → Option Json → Bool
  | none, none => true
  | some a, some b => a.same b
  | _, _ => false

/-- How two values are compared. -/
inductive Comparison where
  | equal
  | different
deriving DecidableEq

/-- What a rule asks of a change. -/
inductive Condition where
  /-- Nothing. -/
  | always
  | entity (id : EntityId)
  | equals (side : Side) (field : Field) (value : Json)
  | fieldChanged (field : Field)
  /-- A field of the old snapshot beside a field of the new one. -/
  | compare (old : Field) (comparison : Comparison) (new : Field)
  /-- A predicate of the user's, known by its name. -/
  | custom (name : String) (predicate : StateChange → Bool)

namespace Condition

/-- Whether a change meets the condition. A missing snapshot or attribute is a
value of its own. -/
def holds (c : Condition) (change : StateChange) : Bool :=
  match c with
  | .always => true
  | .entity id => change.entityId == id
  | .equals side field value => sameValue (field.read? side change) (some value)
  | .fieldChanged field => !sameValue (field.read? .old change) (field.read? .new change)
  | .compare old .equal new => sameValue (old.read? .old change) (new.read? .new change)
  | .compare old .different new => !sameValue (old.read? .old change) (new.read? .new change)
  | .custom _ predicate => predicate change

/-- The kind and the parameters as texts. -/
def parts : Condition → List String
  | .always => ["empty"]
  | .entity id => ["entity", id.text]
  | .equals side field value => ["equals", side.text, field.text, value.text]
  | .fieldChanged field => ["field_changed", field.text]
  | .compare old .equal new => ["compare", old.text, "==", new.text]
  | .compare old .different new => ["compare", old.text, "!=", new.text]
  | .custom name _ => ["custom", name]

/-- A part with the zero byte that ends it. -/
def partBytes (part : String) : List UInt8 := part.toUTF8.toList ++ [0]

/-- The bytes that stand for the condition. -/
def fingerprint (c : Condition) : List UInt8 := c.parts.flatMap partBytes

def text : Condition → String
  | .always => "Empty"
  | .entity id => "Entity(" ++ id.text ++ ")"
  | .equals side field value =>
    "Equals(" ++ side.text ++ "." ++ field.text ++ " == " ++ value.text ++ ")"
  | .fieldChanged field => "FieldChanged(" ++ field.text ++ ")"
  | .compare old .equal new => "Compare(old_state." ++ old.text ++ " Eq new_state." ++ new.text ++ ")"
  | .compare old .different new =>
    "Compare(old_state." ++ old.text ++ " Ne new_state." ++ new.text ++ ")"
  | .custom name _ => "Custom(" ++ name ++ ")"

end Condition

/-- A condition and the digest of its fingerprint. -/
structure Rule where
  condition : Condition
  digest : Digest
  digest_eq : digest = Digest.ofBytes condition.fingerprint

namespace Rule

def ofCondition (c : Condition) : Rule := ⟨c, Digest.ofBytes c.fingerprint, rfl⟩

def holds (r : Rule) (change : StateChange) : Bool := r.condition.holds change

/-- Rules with the same digest are the same rule. -/
def same (a b : Rule) : Bool := a.digest == b.digest

/-- The condition and the first eight digits of the digest. -/
def text (r : Rule) : String :=
  r.condition.text ++ "#" ++ String.ofList (r.digest.hex.toList.take 8)

end Rule

end HubAutomation
