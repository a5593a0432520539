/-!
# Handler sets

The handlers that see each event, in the order in which they were attached. A
set knows a handler by an id that is never handed out again, and by a serial
number that says which handler stands behind the id at the moment.

- `HandlerSet`: the ids in order, and the handlers behind them.
- `HandlerSet.attach`, `HandlerSet.detach`, `HandlerSet.replace`: its changes.
-/

namespace HubAutomation

/-- A handler's place in a set. -/
structure Attachment where
  id : Nat
  /-- The number of the handler among all that there ever were. -/
  serial : Nat
deriving DecidableEq

/-- The handlers that see each event. -/
structure HandlerSet where
  /-- The id that was handed out last; the first one is 1. -/
  lastId : Nat
  attachments : List Attachment

namespace HandlerSet

def empty : HandlerSet := ⟨0, []⟩

def size (s : HandlerSet) : Nat := s.attachments.length

def find? (s : HandlerSet) (id : Nat) : Option Attachment := s.attachments.find? fun a => a.id = id

def contains (s : HandlerSet) (id : Nat) : Bool := (s.find? id).isSome

/-- Whether a handler stands behind some id. -/
def holds (s : HandlerSet) (serial : Nat) : Bool := s.attachments.any fun a => a.serial = serial

/-- Attach a handler under the next id. -/
def attach (s : HandlerSet) (serial : Nat) : HandlerSet :=
  ⟨s.lastId + 1, s.attachments ++ [⟨s.lastId + 1, serial⟩]⟩

/-- Take an id out. -/
def detach (s : HandlerSet) (id : Nat) : HandlerSet :=
  { s with attachments := s.attachments.filter fun a => a.id ≠ id }

/-- Put another handler behind an id, in the same place. -/
def replace (s : HandlerSet) (id serial : Nat) : HandlerSet :=
  { s with attachments := s.attachments.map fun a => if a.id = id then { a with serial } else a }

end HandlerSet

end HubAutomation
