import HubAutomation.Proofs.Client.ListenerSteps
import Mathlib.Data.List.Nodup

/-!
# The line for the lock

The caller that holds the lock on subscriptions and those that wait for it stand
in one line. Callers join it at its end and leave it at its head, so whoever
asked first goes first.

- `Lock.line`: the line.
- `Connection.InLine`: exactly the callers that ask for the lock or hold it
  stand in line, and only its head subscribes.
- `Connection.Reachable.inLine`: it is so at every moment.
- `LineTurn`: what a turn of a caller does to the line.
-/

namespace HubAutomation

namespace Lock

/-- The holder, and behind it those who wait. -/
def line (l : Lock) : List Nat := l.holder.toList ++ l.queue

/-- Who asks for the lock is the last in line, even if it is free. -/
theorem line_acquire {l : Lock} (idle : l.holder = none → l.queue = []) (n : Nat) :
    (l.acquire n).line = l.line ++ [n] := by
  unfold acquire
  split
  · rename_i free
    rw [line, line, free, idle free]
    rfl
  · rename_i m held
    rw [line, line, held, List.append_assoc]

/-- Who lets go of the lock was the first in line. -/
theorem line_release {l : Lock} {n : Nat} (held : l.holder = some n) :
    l.line = n :: l.release.line := by
  rw [line, held, release, line]
  cases l.queue <;> rfl

theorem line_of_free {l : Lock} (idle : l.holder = none → l.queue = []) (free : l.holder = none) :
    l.line = [] := by
  rw [line, free, idle free]
  rfl

end Lock

namespace Connection

variable {c c' : Connection} {n m : Nat}

/-- The line for the lock and the callers belong together. -/
structure InLine (c : Connection) : Prop where
  nodup : c.lock.line.Nodup
  idle : c.lock.holder = none → c.lock.queue = []
  /-- Those who ask for the lock or hold it are in line. -/
  mem_iff : ∀ m, m ∈ c.lock.line ↔ ∃ s, c.callers[m]? = some s ∧ s.inLine = true
  /-- Only the holder subscribes. -/
  holds : ∀ m s p, c.callers[m]? = some s → s.subscribing? = some p → c.lock.holder = some m

theorem inLine_start (capacity : Nat) (broken : Option String) :
    (start capacity broken).InLine where
  nodup := .nil
  idle := fun _ => rfl
  mem_iff := fun _ => ⟨nofun, nofun⟩
  holds := nofun

/-! ### What a turn does to the line -/

/-- What a turn of a caller does to the line. -/
inductive LineTurn (c : Connection) (n : Nat) (c' : Connection) : Prop where
  /-- The caller stays where it is, in line or not. -/
  | stay (s s' : CallerState) (at_ : c.callers[n]? = some s) (callers : c'.callers = c.callers.set n s')
      (same : s'.inLine = s.inLine)
      (holds : ∀ p, s'.subscribing? = some p → c.lock.holder = some n) (lock : c'.lock = c.lock)
  /-- The caller joins the line at its end. -/
  | join (s : CallerState) (purpose : LockPurpose) (at_ : c.callers[n]? = some s)
      (callers : c'.callers = c.callers.set n (.locking purpose)) (before : s.inLine = false)
      (lock : c'.lock = c.lock.acquire n)
  /-- The caller leaves the line at its head. -/
  | leave (s s' : CallerState) (at_ : c.callers[n]? = some s)
      (callers : c'.callers = c.callers.set n s') (before : s.inLine = true)
      (after : s'.inLine = false) (holds : c.lock.holder = some n) (lock : c'.lock = c.lock.release)

theorem not_subscribing_of_not_inLine {s : CallerState} (h : s.inLine = false)
    {p : Nat × String × Receiver} : s.subscribing? ≠ some p := by
  intro hp
  rw [CallerState.inLine_of_subscribing hp] at h
  cases h

/-- What a turn does to the line for the lock. -/
theorem ListenerTurn.line (t : ListenerTurn c n c') (h : c.InLine) : LineTurn c n c' := by
  cases t with
  | aside s s' at_ open_ callers before after asks gets lock left =>
    exact .stay s s' at_ callers (after.trans before.symm)
      (fun p hp => absurd hp (not_subscribing_of_not_inLine after)) lock
  | listen eventType at_ callers lock subscriptions => exact .join _ _ at_ callers rfl lock
  | unlisten eventType at_ callers lock subscriptions => exact .join _ _ at_ callers rfl lock
  | join eventType receiver at_ holds recorded callers lock left =>
    exact .leave _ _ at_ callers rfl rfl holds lock
  | subscribe eventType receiver at_ holds unrecorded connected callers commands lock _ =>
    exact .stay _ _ at_ callers rfl (fun _ _ => holds) lock
  | lost s eventType receiver reason at_ asked down callers lock left =>
    rcases asked with ⟨rfl, holds, -⟩ | ⟨id, asked⟩
    · exact .leave _ _ at_ callers rfl rfl holds lock
    · exact .leave _ _ at_ callers (CallerState.inLine_of_subscribing asked) rfl
        (h.holds n s _ at_ asked) lock
  | untaken eventType at_ holds unrecorded callers lock left =>
    exact .leave _ _ at_ callers rfl rfl holds lock
  | taken eventType subscriptions handle s' at_ holds take callers after gets lock left =>
    exact .leave _ _ at_ callers rfl after holds lock
  | queued id command eventType receiver at_ callers lock subscriptions =>
    exact .stay _ _ at_ callers rfl (fun _ _ => h.holds n _ _ at_ rfl) lock
  | answered id eventType receiver outcome at_ parked callers lock left =>
    exact .leave _ _ at_ callers rfl rfl (h.holds n _ _ at_ rfl) lock

/-- Which callers are in line after one of them has got a new state. -/
theorem inLine_set {s s' : CallerState} (at_ : c.callers[n]? = some s)
    (callers : c'.callers = c.callers.set n s') (m : Nat) :
    (∃ t, c'.callers[m]? = some t ∧ t.inLine = true) ↔
      if m = n then s'.inLine = true else ∃ t, c.callers[m]? = some t ∧ t.inLine = true := by
  rw [callers, getElem?_set_caller at_]
  split
  · simp
  · rfl

/-- A turn keeps the line: who is in it waits for the lock or holds it. -/
theorem InLine.turn (h : c.InLine) (t : LineTurn c n c') : c'.InLine := by
  -- By what the turn does to the line: nothing, one caller more at its end, or one less
  -- in front.
  cases t with
  | stay s s' at_ callers same holds lock =>
    refine ⟨lock ▸ h.nodup, lock ▸ h.idle, fun m => ?_, fun m t p ht hp => ?_⟩
    · rw [lock, h.mem_iff, inLine_set at_ callers]
      split
      · subst ‹m = n›
        rw [same, at_]
        simp
      · rfl
    · rw [lock]
      rw [callers, getElem?_set_caller at_] at ht
      split at ht
      · cases ht
        exact ‹m = n› ▸ holds p hp
      · exact h.holds m t p ht hp
  | join s purpose at_ callers before lock =>
    have out : n ∉ c.lock.line := by
      rw [h.mem_iff, at_]
      simp [before]
    have line : c'.lock.line = c.lock.line ++ [n] := by rw [lock, Lock.line_acquire h.idle]
    refine ⟨?_, ?_, fun m => ?_, fun m t p ht hp => ?_⟩
    · rw [line, List.nodup_append]
      refine ⟨h.nodup, List.nodup_singleton n, fun a ha b hb e => out ?_⟩
      rwa [← List.mem_singleton.1 hb, ← e]
    · rw [lock, Lock.acquire]
      split
      · nofun
      · rename_i m held
        intro free
        rw [show c.lock.holder = none from free] at held
        cases held
    · rw [line, List.mem_append, List.mem_singleton, h.mem_iff, inLine_set at_ callers]
      split
      · exact ⟨fun _ => rfl, fun _ => .inr ‹m = n›⟩
      · exact ⟨fun hm => hm.resolve_right ‹m ≠ n›, .inl⟩
    · rw [callers, getElem?_set_caller at_] at ht
      split at ht
      · cases ht
        cases hp
      · have held := h.holds m t p ht hp
        rw [lock, Lock.acquire, held]
  | leave s s' at_ callers before after holds lock =>
    -- The line loses its head, and nobody stands in it twice.
    have line : c.lock.line = n :: c'.lock.line := by rw [lock, ← Lock.line_release holds]
    have nodup := h.nodup
    rw [line, List.nodup_cons] at nodup
    refine ⟨nodup.2, ?_, fun m => ?_, fun m t p ht hp => ?_⟩
    · rw [lock]
      show c.lock.queue.head? = none → c.lock.queue.tail = []
      cases c.lock.queue with
      | nil => exact fun _ => rfl
      | cons m rest => nofun
    · rw [inLine_set at_ callers]
      split
      · subst ‹m = n›
        rw [after]
        exact ⟨fun hm => absurd hm nodup.1, nofun⟩
      · rw [← h.mem_iff, line, List.mem_cons]
        exact ⟨.inr, fun hm => hm.resolve_left ‹m ≠ n›⟩
    · rw [callers, getElem?_set_caller at_] at ht
      split at ht
      · cases ht
        exact absurd hp (not_subscribing_of_not_inLine after)
      · -- Only the holder subscribes, and that is the caller that leaves.
        have held := h.holds m t p ht hp
        rw [holds] at held
        exact absurd (Option.some.inj held).symm ‹m ≠ n›

theorem InLine.event {a : Action} (h : c.InLine) (e : ListenerEvent c a c') : c'.InLine := by
  have lock := e.lock
  -- The callers that are in line are the same as before.
  have same : ∀ (m : Nat) (s : CallerState), s.inLine = true →
      (c'.callers[m]? = some s ↔ c.callers[m]? = some s) := by
    intro m s hs
    refine e.caller_iff (fun request was => ?_) m
    rw [was] at hs
    cases hs
  refine ⟨lock ▸ h.nodup, lock ▸ h.idle, fun m => ?_, fun m s p hs hp => ?_⟩
  · rw [lock, h.mem_iff]
    exact exists_congr fun s => and_congr_left fun hs => (same m s hs).symm
  · rw [lock]
    exact h.holds m s p ((same m s (CallerState.inLine_of_subscribing hp)).1 hs) hp

/-- The line for the lock is in order after every action. -/
theorem InLine.act (h : c.InLine) (a : Action) : (c.act a).InLine := by
  rcases (c.act_step a).listeners with ⟨n, -, t⟩ | e
  · exact h.turn (t.line h)
  · exact h.event e

/-- The line and the callers belong together at every moment of every run. -/
theorem Reachable.inLine (h : c.Reachable) : c.InLine :=
  h.induction inLine_start fun _ a _ h => h.act a

end Connection

end HubAutomation
