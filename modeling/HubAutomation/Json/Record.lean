import HubAutomation.Json.Basic
import HubAutomation.Json.ReadError

/-!
# Records in documents

A record is an object with the record's fields as keys, or an array with the
fields in the order of their declaration. Unknown keys are skipped, a known key
must not be repeated, and an array must not have more items than the record has
fields. A field that an object leaves out, or that lies behind the end of an
array, is absent.

- `Record`: the fields that a document gives.
- `Record.ofJson`: the record in a document.
- `Record.required`, `Record.optional`, `Record.nullable`: a field by its kind.
- `Json.asString` and the like: values that are not records.
-/

namespace HubAutomation

/-- The fields that a document gives, and whether it gives them by name. -/
structure Record where
  keyed : Bool
  fields : List (String × Json)

namespace Record

/-- How often a key occurs. -/
def occurrences (members : List (String × Json)) (name : String) : Nat :=
  members.countP fun p => p.1 = name

/-- The record in a document. -/
def ofJson (names : List String) : Json → ReadResult Record
  | .object members =>
    if names.any fun name => 1 < occurrences members name then .error .mismatch
    else .ok ⟨true, members⟩
  | .array items =>
    if names.length < items.length then .error .mismatch else .ok ⟨false, names.zip items⟩
  | _ => .error .mismatch

/-- The document of a field. -/
def field? (r : Record) (name : String) : Option Json := Dict.find? r.fields name

/-- A field that must be there. -/
def required {α : Type} (r : Record) (name : String) (read : Json → ReadResult α) : ReadResult α :=
  match r.field? name with
  | some j => read j
  | none => .error .mismatch

/-- A field that may be absent. -/
def optional {α : Type} (r : Record) (name : String) (read : Json → ReadResult α) :
    ReadResult (Option α) :=
  match r.field? name with
  | some j => (read j).map some
  | none => .ok none

/-- A field that may be absent or `null`. -/
def nullable {α : Type} (r : Record) (name : String) (read : Json → ReadResult α) :
    ReadResult (Option α) :=
  match r.field? name with
  | some .null => .ok none
  | some j => (read j).map some
  | none => .ok none

end Record

namespace Json

def asString : Json → ReadResult String
  | .string s => .ok s
  | _ => .error .mismatch

def asBool : Json → ReadResult Bool
  | .bool b => .ok b
  | _ => .error .mismatch

/-- An integer from `low` to `high`. -/
def asInt (low high : Int) : Json → ReadResult Int
  | .number (.int n) => if low ≤ n ∧ n ≤ high then .ok n else .error .mismatch
  | _ => .error .mismatch

/-- A natural number of 64 bits. -/
def asNat (j : Json) : ReadResult Nat := (j.asInt 0 (UInt64.size - 1)).map Int.toNat

/-- Any document, canonical. -/
def asValue (j : Json) : ReadResult Json := .ok j.canonical

/-- The members of an object, canonical. -/
def asDict : Json → ReadResult (Dict Json)
  | .object members => .ok (Dict.ofList (canonicalMembers members))
  | _ => .error .mismatch

/-- The items of an array, read one by one. -/
def asList {α : Type} (read : Json → ReadResult α) : Json → ReadResult (List α)
  | .array items => items.mapM read
  | _ => .error .mismatch

/-- An entity id. -/
def asEntityId : Json → ReadResult EntityId
  | .string s =>
    match EntityId.parse s with
    | .ok id => .ok id
    | .error cause => .error (.entityId cause)
  | _ => .error .mismatch

end Json

end HubAutomation
