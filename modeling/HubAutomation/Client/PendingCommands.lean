import HubAutomation.Client.Error

/-!
# Pending commands

The table of the commands that wait for the hub. A command gets the next id
when it is registered; its entry goes away once, with an outcome or without.

- `PendingCommands`: the ids that wait, and the next one.
- `PendingCommands.register`: the next id.
- `PendingCommands.resolve`, `PendingCommands.failAll`: outcomes.
- `PendingCommands.perform`: any of its operations, with the answer to it.
- `Completion`: what a caller gets.
-/

namespace HubAutomation

/-- What a caller gets. -/
structure Completion where
  id : Nat
  /-- `none` if the entry went away without an outcome. -/
  outcome : Option (ClientResult Json)

/-- The commands that wait for the hub. -/
structure PendingCommands where
  nextId : Nat
  /-- The ids that wait, in the order of their registration. -/
  entries : List Nat
  /-- The ids whose callers wait for them. -/
  callers : List Nat

namespace PendingCommands

/-- Ids start at 1. -/
def empty : PendingCommands := ⟨1, [], []⟩

def size (t : PendingCommands) : Nat := t.entries.length

def contains (t : PendingCommands) (id : Nat) : Bool := t.entries.contains id

/-- Register a command under the next id. -/
def register (t : PendingCommands) : PendingCommands :=
  ⟨t.nextId + 1, t.entries ++ [t.nextId], t.callers ++ [t.nextId]⟩

/-- The completion of a caller, if it waits. -/
def completion (t : PendingCommands) (id : Nat) (outcome : Option (ClientResult Json)) :
    List Completion :=
  if t.callers.contains id then [⟨id, outcome⟩] else []

/-- The table without an entry. -/
def remove (t : PendingCommands) (id : Nat) : PendingCommands :=
  { t with entries := t.entries.erase id, callers := t.callers.erase id }

/-- The entry of an id goes away. Without such an entry nothing happens. -/
def complete (t : PendingCommands) (id : Nat) (outcome : Option (ClientResult Json)) :
    PendingCommands × List Completion :=
  if t.contains id then (t.remove id, t.completion id outcome) else (t, [])

/-- A result arrives. -/
def resolve (t : PendingCommands) (frame : CommandResult) : PendingCommands × List Completion :=
  t.complete frame.id (some (frame.outcome.mapError .command))

/-- The answer to a ping arrives. -/
def resolvePong (t : PendingCommands) (id : Nat) : PendingCommands × List Completion :=
  t.complete id (some (.ok .null))

/-- Give up an entry. -/
def forget (t : PendingCommands) (id : Nat) : PendingCommands × List Completion :=
  t.complete id none

/-- A caller waits no longer; its entry stays. -/
def abandon (t : PendingCommands) (id : Nat) : PendingCommands :=
  { t with callers := t.callers.erase id }

/-- The connection is lost for all commands that wait. -/
def failAll (t : PendingCommands) (reason : String) : PendingCommands × List Completion :=
  ({ t with entries := [], callers := t.callers.filter fun id => !t.contains id },
    t.entries.flatMap fun id => t.completion id (some (.error (.connectionLost reason))))

/-- What can be asked of the table. -/
inductive Operation where
  | register
  | resolve (frame : CommandResult)
  | resolvePong (id : Nat)
  | forget (id : Nat)
  | failAll (reason : String)

/-- The answer to an operation. -/
inductive Answer where
  | issued (id : Nat)
  /-- Whether the id had an entry. -/
  | found (found : Bool)
  | forgotten
  /-- How many entries there were. -/
  | failed (count : Nat)
deriving DecidableEq

/-- What an operation comes to. -/
structure Performed where
  answer : Answer
  table : PendingCommands
  completions : List Completion

def perform (t : PendingCommands) : Operation → Performed
  | .register => ⟨.issued t.nextId, t.register, []⟩
  | .resolve frame => ⟨.found (t.contains frame.id), (t.resolve frame).1, (t.resolve frame).2⟩
  | .resolvePong id => ⟨.found (t.contains id), (t.resolvePong id).1, (t.resolvePong id).2⟩
  | .forget id => ⟨.forgotten, (t.forget id).1, (t.forget id).2⟩
  | .failAll reason => ⟨.failed t.size, (t.failAll reason).1, (t.failAll reason).2⟩

end PendingCommands

end HubAutomation
