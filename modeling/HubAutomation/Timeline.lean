/-!
# Virtual time

A clock in milliseconds that only moves when it is told to, and the alarms that
wait for it. Alarms go off in the order of their due times, those of one due
time in the order in which they were armed.

- `Timeline κ`: the clock and the alarms, each with what it wakes.
- `Timeline.arm`: one more alarm.
- `Timeline.take?`: the next alarm up to a limit; the clock moves to it.
- `Timeline.moveTo`: move the clock.
-/

namespace HubAutomation

/-- An alarm and what it wakes. -/
structure Alarm (κ : Type) where
  due : Nat
  wakes : κ

/-- The clock and the alarms that wait for it, in the order of arming. -/
structure Timeline (κ : Type) where
  now : Nat
  alarms : List (Alarm κ)

namespace Timeline

variable {κ : Type}

/-- A clock at zero. -/
def start : Timeline κ := ⟨0, []⟩

/-- Arm an alarm. -/
def arm (t : Timeline κ) (due : Nat) (wakes : κ) : Timeline κ :=
  { t with alarms := t.alarms ++ [⟨due, wakes⟩] }

/-- The first of the alarms with the least due time, and the other alarms. -/
def earliest? : List (Alarm κ) → Option (Alarm κ × List (Alarm κ))
  | [] => none
  | a :: rest =>
    match earliest? rest with
    | none => some (a, [])
    | some (b, others) => if a.due ≤ b.due then some (a, rest) else some (b, a :: others)

/-- Take the next alarm if it is due by `limit`, and move the clock to it. -/
def take? (t : Timeline κ) (limit : Nat) : Option (κ × Timeline κ) :=
  match earliest? t.alarms with
  | some (a, others) => if a.due ≤ limit then some (a.wakes, ⟨max t.now a.due, others⟩) else none
  | none => none

/-- Take the next alarm, whenever it is due. -/
def takeNext? (t : Timeline κ) : Option (κ × Timeline κ) :=
  match earliest? t.alarms with
  | some (a, others) => some (a.wakes, ⟨max t.now a.due, others⟩)
  | none => none

/-- Move the clock forward. -/
def moveTo (t : Timeline κ) (now : Nat) : Timeline κ := { t with now := max t.now now }

/-- The clock is never moved further than thirty years at once. -/
def longestStep : Nat := 30 * 365 * 24 * 60 * 60 * 1000

/-- Where the clock stands after it was told to move on. -/
def target (t : Timeline κ) (milliseconds : Nat) : Nat := t.now + min milliseconds longestStep

/-! ### What is taken -/

theorem earliest?_eq_none {alarms : List (Alarm κ)} (h : earliest? alarms = none) :
    alarms = [] := by
  cases alarms with
  | nil => rfl
  | cons b rest =>
    unfold earliest? at h
    split at h
    · cases h
    · split at h <;> cases h

theorem perm_of_earliest? {alarms others : List (Alarm κ)} {a : Alarm κ}
    (h : earliest? alarms = some (a, others)) : alarms.Perm (a :: others) := by
  induction alarms generalizing a others with
  | nil => cases h
  | cons b rest ih =>
    unfold earliest? at h
    split at h
    · rename_i none_
      cases h
      rw [earliest?_eq_none none_]
    · rename_i c cs some_
      split at h
      · cases h
        exact .refl _
      · cases h
        exact ((ih some_).cons b).trans (.swap _ b cs)

theorem due_le_of_earliest? {alarms others : List (Alarm κ)} {a : Alarm κ}
    (h : earliest? alarms = some (a, others)) : ∀ b ∈ alarms, a.due ≤ b.due := by
  induction alarms generalizing a others with
  | nil => cases h
  | cons b rest ih =>
    unfold earliest? at h
    split at h
    · rename_i none_
      cases h
      rw [earliest?_eq_none none_]
      simp
    · rename_i c cs some_
      have least := ih some_
      split at h
      · rename_i le
        cases h
        exact List.forall_mem_cons.2 ⟨Nat.le_refl _, fun d hd => Nat.le_trans le (least d hd)⟩
      · rename_i gt
        cases h
        exact List.forall_mem_cons.2 ⟨Nat.le_of_lt (Nat.lt_of_not_le gt), least⟩

/-- The alarm that is taken is due and no other one is due before it. -/
theorem take?_eq_some {t t' : Timeline κ} {limit : Nat} {wakes : κ}
    (h : t.take? limit = some (wakes, t')) :
    ∃ due, due ≤ limit ∧ t.alarms.Perm (⟨due, wakes⟩ :: t'.alarms) ∧
      (∀ b ∈ t'.alarms, due ≤ b.due) ∧ t'.now = max t.now due := by
  unfold take? at h
  split at h
  · rename_i a others some_
    split at h
    · rename_i isDue
      cases h
      have perm := perm_of_earliest? some_
      exact ⟨a.due, isDue, perm, fun b hb => due_le_of_earliest? some_ b
        (perm.mem_iff.2 (List.mem_cons_of_mem _ hb)), rfl⟩
    · cases h
  · cases h

theorem take?_eq_none {t : Timeline κ} {limit : Nat} (h : t.take? limit = none) :
    ∀ a ∈ t.alarms, limit < a.due := by
  unfold take? at h
  split at h
  · rename_i a others some_
    split at h
    · cases h
    · rename_i notDue
      exact fun b hb => Nat.lt_of_lt_of_le (Nat.lt_of_not_le notDue)
        (due_le_of_earliest? some_ b hb)
  · rename_i none_
    rw [earliest?_eq_none none_]
    simp

theorem le_target (t : Timeline κ) (milliseconds : Nat) : t.now ≤ t.target milliseconds :=
  Nat.le_add_right _ _

end Timeline

end HubAutomation
