import HubAutomation.Json.Basic

/-!
# Differences of documents

The places at which two documents differ. Objects are compared key by key,
arrays index by index; anything else, a change of kind included, is one update.

- `Difference`: one place, with what stood there and what stands there.
- `Json.diff`: all places, those of the old document first and then what is new.
-/

namespace HubAutomation

/-- What happened at a place. -/
inductive Change where
  | add (new : Json)
  | update (old new : Json)
  | delete (old : Json)

/-- A place at which two documents differ: keys and indices from the root. -/
structure Difference where
  path : List String
  change : Change

namespace Difference

/-- The path with points between its parts. -/
def dottedPath (d : Difference) : String := ".".intercalate d.path

/-- The same difference seen from further up. -/
def below (step : String) (d : Difference) : Difference := { d with path := step :: d.path }

def kind (d : Difference) : String :=
  match d.change with
  | .add _ => "add"
  | .update _ _ => "update"
  | .delete _ => "delete"

def old? (d : Difference) : Option Json :=
  match d.change with
  | .add _ => none
  | .update old _ => some old
  | .delete old => some old

def new? (d : Difference) : Option Json :=
  match d.change with
  | .add new => some new
  | .update _ new => some new
  | .delete _ => none

end Difference

namespace Json

/-- The members of an object that are not in another one. -/
def addedMembers (old new : List (String × Json)) : List Difference :=
  (new.filter fun p => !Dict.mem old p.1).map fun p => ⟨[p.1], .add p.2⟩

/-- The items of an array from `index` on. -/
def addedItems : (index : Nat) → List Json → List Difference
  | _, [] => []
  | index, j :: rest => ⟨[toString index], .add j⟩ :: addedItems (index + 1) rest

mutual

/-- The places at which two documents differ. -/
def diff : Json → Json → List Difference
  | .object old, .object new => diffMembers old new ++ addedMembers old new
  | .array old, .array new => diffItems 0 old new
  | old, new => if old.same new then [] else [⟨[], .update old new⟩]

/-- The differences at the keys of the old object. -/
def diffMembers : List (String × Json) → List (String × Json) → List Difference
  | [], _ => []
  | (k, old) :: rest, new =>
    (match Dict.find? new k with
      | some j => (diff old j).map (·.below k)
      | none => [⟨[k], .delete old⟩]) ++ diffMembers rest new

/-- The differences of arrays from `index` on. -/
def diffItems : (index : Nat) → List Json → List Json → List Difference
  | _, [], [] => []
  | index, [], new => addedItems index new
  | index, old :: rest, [] => ⟨[toString index], .delete old⟩ :: diffItems (index + 1) rest []
  | index, old :: rest, new :: news =>
    (diff old new).map (·.below (toString index)) ++ diffItems (index + 1) rest news

end

end Json

/-- The document of a difference; a side that is not there is left out. -/
def Difference.toJson (d : Difference) : Json :=
  .object ([("kind", .string d.kind)] ++
    (match d.new? with
      | some j => [("new", j)]
      | none => []) ++
    (match d.old? with
      | some j => [("old", j)]
      | none => []) ++
    [("path", .array (d.path.map .string))])

end HubAutomation
