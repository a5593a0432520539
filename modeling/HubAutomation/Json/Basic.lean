import HubAutomation.Dict
import HubAutomation.Json.Binary64

/-!
# JSON documents

Numbers are integers or doubles, and the two kinds are never equal. A document
that was read from text has its members as written; `Json.canonical` sorts them
and lets the last of equal keys win. Every document that the library keeps is
canonical, so equality compares members pair by pair.

- `Json`: documents.
- `Json.canonical`: the document with every object a dictionary.
- `Json.same`: equality of values.
-/

namespace HubAutomation

/-- A JSON number. -/
inductive Number where
  | int (value : Int)
  | float (value : Binary64)
deriving DecidableEq

/-- Equality of values: an integer differs from every double. -/
def Number.same : Number → Number → Bool
  | .int a, .int b => a == b
  | .float a, .float b => a.same b
  | _, _ => false

/-- A JSON document. -/
inductive Json where
  | null
  | bool (value : Bool)
  | number (value : Number)
  | string (text : String)
  | array (items : List Json)
  | object (members : List (String × Json))

instance : Inhabited Json := ⟨.null⟩

namespace Json

mutual

/-- Equality of values. -/
def same : Json → Json → Bool
  | .null, .null => true
  | .bool a, .bool b => a == b
  | .number a, .number b => a.same b
  | .string a, .string b => a == b
  | .array a, .array b => sameItems a b
  | .object a, .object b => sameMembers a b
  | _, _ => false

/-- Equality of items, one by one. -/
def sameItems : List Json → List Json → Bool
  | [], [] => true
  | a :: as, b :: bs => same a b && sameItems as bs
  | _, _ => false

/-- Equality of members, one by one. -/
def sameMembers : List (String × Json) → List (String × Json) → Bool
  | [], [] => true
  | (k, a) :: as, (l, b) :: bs => k == l && same a b && sameMembers as bs
  | _, _ => false

end

instance : BEq Json := ⟨same⟩

mutual

/-- The document with every object sorted by key, the last of equal keys
winning. -/
def canonical : Json → Json
  | .array items => .array (canonicalItems items)
  | .object members => .object (Dict.ofList (canonicalMembers members))
  | .null => .null
  | .bool b => .bool b
  | .number n => .number n
  | .string s => .string s

def canonicalItems : List Json → List Json
  | [] => []
  | j :: rest => canonical j :: canonicalItems rest

def canonicalMembers : List (String × Json) → List (String × Json)
  | [] => []
  | (k, j) :: rest => (k, canonical j) :: canonicalMembers rest

end

/-- An object of the given members. -/
def ofMembers (members : List (String × Json)) : Json := .object (Dict.ofList members)

/-- An integer. -/
def int (n : Int) : Json := .number (.int n)

/-- A natural number. -/
def nat (n : Nat) : Json := int n

/-- A value, or `null` where there is none. -/
def ofOption {α : Type} (f : α → Json) : Option α → Json
  | some a => f a
  | none => .null

def string? : Json → Option String
  | .string s => some s
  | _ => none

/-- The member of an object. -/
def member? (j : Json) (key : String) : Option Json :=
  match j with
  | .object members => Dict.find? members key
  | _ => none

end Json

end HubAutomation
