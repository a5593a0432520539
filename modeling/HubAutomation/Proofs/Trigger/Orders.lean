/-!
# Orders and windows

What a debouncer is told is a list of orders with their times: a call with a
payload, or the order to give up what waits. A call opens a window; it is kept
if no other order comes before the window ends.

- `Orders α`: orders with their times, the oldest first.
- `Orders.kept`: the calls that are kept, with the ends of their windows.
- `Orders.kept_concat`: one more order drops the call whose window is open.
- `Orders.mem_kept`: which calls are kept.
- `Orders.last_of_kept`: an open window belongs to the latest order.
-/

namespace HubAutomation

/-- What a debouncer is told. -/
inductive Order (α : Type) where
  | call (payload : α)
  /-- Give up the payload that waits. -/
  | withdraw

/-- Orders and the times at which they were given, the oldest first. -/
abbrev Orders (α : Type) := List (Nat × Order α)

namespace Orders

variable {α : Type}

/-- The calls that no other order follows before their window ends, each with
the time of that end. -/
def kept (window : Nat) : Orders α → List (Nat × α)
  | [] => []
  | (time, .call payload) :: later =>
    if ∀ o ∈ later, time + window ≤ o.1 then (time + window, payload) :: kept window later
    else kept window later
  | (_, .withdraw) :: later => kept window later

/-- All calls, with their own times. -/
def calls : Orders α → List (Nat × α)
  | [] => []
  | (time, .call payload) :: later => (time, payload) :: calls later
  | (_, .withdraw) :: later => calls later

theorem kept_cons_call (window time : Nat) (payload : α) (later : Orders α) :
    kept window ((time, .call payload) :: later) =
      if ∀ o ∈ later, time + window ≤ o.1 then (time + window, payload) :: kept window later
      else kept window later := rfl

theorem calls_append (orders later : Orders α) :
    (orders ++ later).calls = orders.calls ++ later.calls := by
  induction orders with
  | nil => rfl
  | cons o orders ih =>
    obtain ⟨time, call | _⟩ := o
    · exact congrArg (_ :: ·) ih
    · exact ih

/-- One more order leaves the calls whose windows have ended by then. -/
theorem kept_concat (window : Nat) (orders : Orders α) (now : Nat) (order : Order α) :
    kept window (orders ++ [(now, order)]) =
      (kept window orders).filter (fun k => k.1 ≤ now) ++ kept window [(now, order)] := by
  induction orders with
  | nil => rfl
  | cons o orders ih =>
    obtain ⟨time, payload | _⟩ := o
    · have undisturbed : (∀ o ∈ orders ++ [(now, order)], time + window ≤ o.1) ↔
          (∀ o ∈ orders, time + window ≤ o.1) ∧ time + window ≤ now := by
        simp only [List.forall_mem_append, List.forall_mem_singleton]
      rw [List.cons_append, kept_cons_call, kept_cons_call]
      by_cases before : ∀ o ∈ orders, time + window ≤ o.1
      · by_cases isPast : time + window ≤ now
        · rw [if_pos (undisturbed.2 ⟨before, isPast⟩), if_pos before, ih,
            List.filter_cons_of_pos (by simpa using isPast), List.cons_append]
        · rw [if_neg fun h => isPast (undisturbed.1 h).2, if_pos before, ih,
            List.filter_cons_of_neg (by simpa using isPast)]
      · rw [if_neg fun h => before (undisturbed.1 h).1, if_neg before, ih]
    · exact ih

@[simp] theorem kept_call (window now : Nat) (payload : α) :
    kept window [(now, .call payload)] = [(now + window, payload)] := rfl

@[simp] theorem kept_withdraw (window now : Nat) :
    kept window [(now, (.withdraw : Order α))] = [] := rfl

/-- To withdraw what waits just before a call is to do nothing more. -/
theorem kept_withdraw_call (window : Nat) (orders : Orders α) (now : Nat) (payload : α) :
    kept window (orders ++ [(now, .withdraw)] ++ [(now, .call payload)]) =
      kept window (orders ++ [(now, .call payload)]) := by
  rw [kept_concat, kept_concat, kept_concat, kept_withdraw, List.append_nil, List.filter_filter]
  simp only [Bool.and_self]

/-- A call is kept exactly if no order follows before its window ends. -/
theorem mem_kept {window due : Nat} {payload : α} {orders : Orders α} :
    (due, payload) ∈ kept window orders ↔
      ∃ first time later, orders = first ++ (time, .call payload) :: later ∧
        due = time + window ∧ ∀ o ∈ later, due ≤ o.1 := by
  induction orders with
  | nil => simp [kept]
  | cons o orders ih =>
    -- A later call of the list is one of its tail.
    have tail : (∃ first time later, orders = first ++ (time, .call payload) :: later ∧
          due = time + window ∧ ∀ o ∈ later, due ≤ o.1) →
        ∃ first time later, o :: orders = first ++ (time, .call payload) :: later ∧
          due = time + window ∧ ∀ o ∈ later, due ≤ o.1 := by
      rintro ⟨first, time, later, rfl, rest⟩
      exact ⟨o :: first, time, later, rfl, rest⟩
    constructor
    · intro isKept
      obtain ⟨time, p | _⟩ := o
      · rw [kept_cons_call] at isKept
        split at isKept
        · rename_i undisturbed
          rcases List.mem_cons.1 isKept with e | isKept
          · cases e
            exact ⟨[], time, orders, rfl, rfl, undisturbed⟩
          · exact tail (ih.1 isKept)
        · exact tail (ih.1 isKept)
      · exact tail (ih.1 isKept)
    · rintro ⟨_ | ⟨o', first⟩, time, later, e, due_eq, undisturbed⟩
      · cases e
        rw [kept_cons_call, if_pos (due_eq ▸ undisturbed), due_eq]
        exact List.mem_cons_self
      · cases e
        have isKept := ih.2 ⟨first, time, later, rfl, due_eq, undisturbed⟩
        obtain ⟨time', p | _⟩ := o
        · rw [kept_cons_call]
          split
          · exact List.mem_cons_of_mem _ isKept
          · exact isKept
        · exact isKept

/-- A kept call whose window has not ended is the latest order. -/
theorem last_of_kept {window now due : Nat} {orders : Orders α} {begun : List (Nat × α)}
    {payload : α} (past : ∀ o ∈ orders, o.1 ≤ now) (isOpen : now < due)
    (kept_eq : kept window orders = begun ++ [(due, payload)]) :
    ∃ before time, orders = before ++ [(time, .call payload)] ∧ due = time + window := by
  rcases List.eq_nil_or_concat orders with rfl | ⟨before, ⟨time, order⟩, rfl⟩
  · simp [kept] at kept_eq
  · rw [List.concat_eq_append] at past kept_eq ⊢
    rw [kept_concat] at kept_eq
    cases order with
    | call p =>
      obtain ⟨-, last⟩ := List.append_inj' kept_eq rfl
      obtain ⟨rfl, rfl⟩ : time + window = due ∧ p = payload := by simpa using last
      exact ⟨before, time, rfl, rfl⟩
    | withdraw =>
      -- All that is kept then was isPast by the time of that order.
      have isKept : (due, payload) ∈ begun ++ [(due, payload)] := by simp
      rw [← kept_eq, kept_withdraw, List.append_nil, List.mem_filter] at isKept
      have isPast : due ≤ time := by simpa using isKept.2
      have given : time ≤ now := past (time, .withdraw) (by simp)
      omega

end Orders

end HubAutomation
