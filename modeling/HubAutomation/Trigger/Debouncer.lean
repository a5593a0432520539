/-!
# Debouncing

A debouncer holds back what it is called with until a time has passed without
another call. It has one slot. Every call and every cancellation starts a new
generation. A call starts a timer as well, which is known by the generation of
the call: it waits for the end of the window, takes the payload if its
generation is not over, and delivers it. A timer that is told to stop does so
when it would go on after a wait, be it the window or a wait in the delivery.

- `Debouncer α`: the slot, the generation and the length of the window.
- `Debouncer.call`: hand over a payload.
- `Debouncer.cancel`: give up the payload that waits.
- `Debouncer.wake`: the window of a timer ends.
-/

namespace HubAutomation

/-- What a debouncer holds. -/
inductive Slot (α : Type) where
  | idle
  /-- A payload, and the timer that waits to deliver it. -/
  | pending (deadline : Nat) (payload : α) (timer : Nat)
  /-- The last payload was delivered. -/
  | fired

/-- The slot without what it holds. -/
inductive Phase where
  | idle
  | pending
  | fired
deriving DecidableEq

namespace Phase

def text : Phase → String
  | .idle => "Idle"
  | .pending => "Pending"
  | .fired => "Fired"

end Phase

/-- One slot and the windows that were opened for it. -/
structure Debouncer (α : Type) where
  /-- The length of the window in milliseconds; with none, calls are delivered
  at once. -/
  timeout : Nat
  slot : Slot α
  /-- The number of calls and cancellations that changed the slot. -/
  generation : Nat
  /-- The timers that were told to stop. -/
  stopped : List Nat

/-- What a call asks of its surroundings. -/
inductive CallEffect (α : Type) where
  /-- Deliver the payload, and go on when that is done. -/
  | deliver (payload : α)
  /-- Start a timer whose window ends at the deadline. -/
  | window (deadline timer : Nat)

namespace Debouncer

variable {α : Type}

/-- A debouncer that has not been called. -/
def new (timeout : Nat) : Debouncer α := ⟨timeout, .idle, 0, []⟩

def phase (d : Debouncer α) : Phase :=
  match d.slot with
  | .idle => .idle
  | .pending _ _ _ => .pending
  | .fired => .fired

def isPending (d : Debouncer α) : Bool := d.phase == .pending

/-- When the payload that waits is due. -/
def deadline? (d : Debouncer α) : Option Nat :=
  match d.slot with
  | .pending deadline _ _ => some deadline
  | _ => none

/-- The timer that waits to deliver the payload of the slot. -/
def timer? (d : Debouncer α) : Option Nat :=
  match d.slot with
  | .pending _ _ timer => some timer
  | _ => none

/-- Tell the timer of the slot to stop. -/
def stop (d : Debouncer α) : Debouncer α := { d with stopped := d.timer?.toList ++ d.stopped }

/-- Hand over a payload. It replaces the one that waits and opens a new window. -/
def call (d : Debouncer α) (now : Nat) (payload : α) : Debouncer α × CallEffect α :=
  if d.timeout = 0 then ({ d with slot := .fired }, .deliver payload)
  else
    let timer := d.generation + 1
    let deadline := now + d.timeout
    ({ d.stop with slot := .pending deadline payload timer, generation := timer },
      .window deadline timer)

/-- Give up the payload that waits, and say whether there was one. -/
def cancel (d : Debouncer α) : Bool × Debouncer α :=
  match d.slot with
  | .pending _ _ _ => (true, { d.stop with slot := .idle, generation := d.generation + 1 })
  | _ => (false, d)

/-- Whether a timer goes on after a wait. -/
def runs (d : Debouncer α) (timer : Nat) : Bool := !d.stopped.contains timer

/-- A timer takes the payload that waits, unless its generation is over. -/
def collect (d : Debouncer α) (timer : Nat) : Option (α × Debouncer α) :=
  match d.slot with
  | .pending _ payload _ =>
    if d.generation = timer then some (payload, { d with slot := .fired }) else none
  | _ => none

/-- The window of a timer ends. -/
def wake (d : Debouncer α) (timer : Nat) : Option (α × Debouncer α) :=
  if d.runs timer then d.collect timer else none

@[simp] theorem timeout_call (d : Debouncer α) (now : Nat) (payload : α) :
    (d.call now payload).1.timeout = d.timeout := by
  unfold call
  split <;> rfl

@[simp] theorem timeout_cancel (d : Debouncer α) : d.cancel.2.timeout = d.timeout := by
  unfold cancel
  split <;> rfl

@[simp] theorem isPending_cancel (d : Debouncer α) : d.cancel.2.isPending = false := by
  unfold cancel isPending phase
  cases h : d.slot <;> simp [h]

theorem cancel_fst (d : Debouncer α) : d.cancel.1 = d.isPending := by
  unfold cancel isPending phase
  cases d.slot <;> rfl

theorem cancel_of_not_isPending {d : Debouncer α} (h : d.isPending = false) :
    d.cancel = (false, d) := by
  unfold cancel
  cases hs : d.slot with
  | pending deadline payload timer => simp [isPending, phase, hs] at h
  | idle => rfl
  | fired => rfl

end Debouncer

end HubAutomation
