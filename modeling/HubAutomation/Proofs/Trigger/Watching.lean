import HubAutomation.Proofs.Trigger.OneSlot
import HubAutomation.Trigger.Watch

/-!
# What events do to a handler

The rules of a handler sort the events that it is shown: an event qualifies,
cancels, does both or neither. One that does both is an error, and one that
does both or neither changes nothing. The others are orders to the debouncer of
the handler, and so is an explicit cancellation.

- `RuleSet.Qualifies`, `RuleSet.Cancels`: what an event does by the rules.
- `Watch.orders`: the orders of a run.
- `Watch.handler_act`: a handler on a clock does what the handler alone does.
- `Watch.Watched`: what is seen of a handler after a run.
- `Watch.watched`: every run is such a run.
-/

namespace HubAutomation

namespace RuleSet

variable {rules : RuleSet} {timeout : Nat} {change : StateChange}

/-- All call rules hold. -/
def Qualifies (rules : RuleSet) (change : StateChange) : Prop :=
  ∀ r ∈ rules.call, r.holds change = true

/-- There is a window to cancel a call in, there is a cancel rule, and all scope
and cancel rules hold. -/
def Cancels (rules : RuleSet) (timeout : Nat) (change : StateChange) : Prop :=
  0 < timeout ∧ rules.cancel ≠ [] ∧ (∀ r ∈ rules.scope, r.holds change = true) ∧
    ∀ r ∈ rules.cancel, r.holds change = true

instance : Decidable (rules.Qualifies change) :=
  inferInstanceAs (Decidable (∀ r ∈ rules.call, r.holds change = true))

instance : Decidable (rules.Cancels timeout change) :=
  inferInstanceAs (Decidable (0 < timeout ∧ rules.cancel ≠ [] ∧
    (∀ r ∈ rules.scope, r.holds change = true) ∧ ∀ r ∈ rules.cancel, r.holds change = true))

theorem allCancel_iff :
    (timeout ≠ 0 && rules.allCancel change) = true ↔ rules.Cancels timeout change := by
  rw [Bool.and_eq_true, allCancel_eq_true, decide_eq_true_iff, Cancels, Nat.pos_iff_ne_zero]

/-- A rule set judges an event by whether it qualifies and whether it cancels. -/
theorem judge_eq (rules : RuleSet) (timeout : Nat) (change : StateChange) :
    rules.judge timeout change =
      if rules.Qualifies change then
        if rules.Cancels timeout change then .contradiction else .qualifies
      else if rules.Cancels timeout change then .cancels else .nothing := by
  unfold judge Qualifies
  simp only [← allCall_eq_true, ← allCancel_iff]
  cases rules.allCall change <;> cases timeout ≠ 0 && rules.allCancel change <;> rfl

end RuleSet

namespace Watch

/-- What an act orders the debouncer to do. An event that qualifies and cancels
orders nothing. -/
def Act.order? (rules : RuleSet) (timeout : Nat) : Act → Option (Order (Event StateChange))
  | .event e =>
    if rules.Qualifies e.data then
      if rules.Cancels timeout e.data then none else some (.call e)
    else if rules.Cancels timeout e.data then some .withdraw else none
  | .cancel => some .withdraw
  | .advance _ => none

/-- The orders of a run, with the times at which they are given. -/
def orders (rules : RuleSet) (timeout : Nat) : Watch → List Act → Orders (Event StateChange)
  | _, [] => []
  | w, a :: rest =>
    (a.order? rules timeout).toList.map (w.calls.now, ·) ++ orders rules timeout (w.act a) rest

theorem actAll_cons (w : Watch) (a : Act) (rest : List Act) :
    w.actAll (a :: rest) = (w.act a).actAll rest := rfl

variable {w : Watch} {rules : RuleSet} {timeout : Nat} {before : Orders (Event StateChange)}

/-! ### One act -/

theorem verdict_eq (rules_eq : w.rules = rules) (timeout_eq : w.calls.debouncer.timeout = timeout)
    (change : StateChange) :
    w.verdict change =
      if rules.Qualifies change then
        if rules.Cancels timeout change then .contradiction else .qualifies
      else if rules.Cancels timeout change then .cancels else .nothing := by
  unfold verdict
  rw [rules_eq, timeout_eq, RuleSet.judge_eq]

/-- What an event does to a watch, by the judgement. -/
theorem act_event (w : Watch) (e : Event StateChange) :
    w.act (.event e) =
      match w.verdict e.data with
      | .qualifies => { w with calls := w.calls.cancel.2.call e }
      | .cancels => w.cancel.2
      | .contradiction | .nothing => w := by
  unfold act observe
  dsimp only
  cases w.verdict e.data <;> rfl

/-- The debouncer does as it is ordered; a call comes with a cancellation just
before it. -/
theorem calls_act (rules_eq : w.rules = rules) (timeout_eq : w.calls.debouncer.timeout = timeout)
    (a : Act) :
    (w.act a).calls =
      match a.order? rules timeout, a with
      | some (.call e), _ => w.calls.cancel.2.call e
      | some .withdraw, _ => w.calls.cancel.2
      | none, .advance milliseconds => w.calls.advance milliseconds
      | none, _ => w.calls := by
  cases a with
  | cancel => rfl
  | advance milliseconds => rfl
  | event e =>
    rw [act_event, verdict_eq rules_eq timeout_eq]
    unfold Act.order?
    by_cases qualifies : rules.Qualifies e.data <;>
      by_cases cancels : rules.Cancels timeout e.data <;>
        simp [qualifies, cancels, cancel]

/-- A watch keeps its rules. -/
@[simp] theorem rules_act (w : Watch) (a : Act) : (w.act a).rules = w.rules := by
  cases a with
  | cancel => rfl
  | advance milliseconds => rfl
  | event e =>
    rw [act_event]
    cases w.verdict e.data <;> rfl

theorem debouncer_call (d : Debounced (Event StateChange)) (e : Event StateChange) :
    (d.call e).debouncer = (d.debouncer.call d.now e).1 := by
  unfold Debounced.call
  cases d.debouncer.call d.now e with
  | mk debouncer effect =>
    cases effect with
    | deliver payload => exact (Debounced.alarms_deliverNow _ payload).2.1
    | window due timer => rfl

/-- A handler on a clock fails where the handler alone does, and becomes what
the handler alone becomes. -/
theorem handler_act (w : Watch) (e : Event StateChange) :
    ((w.handler.meet w.calls.now e).failed = true ↔ ∃ error, w.observe e = .error error) ∧
      (w.act (.event e)).handler = (w.handler.meet w.calls.now e).handler := by
  have judged : w.handler.rules.judge w.handler.timeout e.data = w.verdict e.data := rfl
  rw [act_event]
  unfold TriggerHandler.meet observe
  rw [judged]
  cases w.verdict e.data with
  | contradiction => simp
  | nothing => simp
  | cancels => exact ⟨by simp, rfl⟩
  | qualifies => exact ⟨by simp, congrArg (TriggerHandler.mk _ _) (debouncer_call _ e)⟩

/-! ### Runs -/

open Debounced (Follows Inline OneSlot)

/-- What every act keeps true of the orders so far and the calls, a run does. -/
theorem run_induction {P : Orders (Event StateChange) → Debounced (Event StateChange) → Prop}
    (step : ∀ before (w : Watch) a, P before w.calls → w.rules = rules →
      P (before ++ (a.order? rules timeout).toList.map (w.calls.now, ·)) (w.act a).calls)
    (h : P before w.calls) (rules_eq : w.rules = rules) (acts : List Act) :
    P (before ++ w.orders rules timeout acts) (w.actAll acts).calls := by
  induction acts generalizing w before with
  | nil => exact (List.append_nil before).symm ▸ h
  | cons a rest ih =>
    rw [actAll_cons, orders, ← List.append_assoc]
    exact ih (step before w a h rules_eq) ((rules_act w a).trans rules_eq)

/-- One more act, with a window. -/
theorem follows_act (f : Follows timeout before w.calls) (rules_eq : w.rules = rules)
    (pos : 0 < timeout) (a : Act) :
    Follows timeout (before ++ (a.order? rules timeout).toList.map (w.calls.now, ·))
      (w.act a).calls := by
  rw [calls_act rules_eq f.timeout_eq]
  split
  · rename_i e order
    rw [order]
    have called := f.cancel.call pos e
    exact { called with
      past := by
        intro o ho
        rcases List.mem_append.1 ho with earlier | own
        · exact called.past o (by simp [earlier])
        · exact called.past o (List.mem_append_right _ own)
      promised := called.promised.trans (Orders.kept_withdraw_call timeout before w.calls.now e) }
  · rename_i order
    rw [order]
    exact f.cancel
  · exact (List.append_nil before).symm ▸ f.advance _
  · rename_i order
    rw [order]
    exact (List.append_nil before).symm ▸ f

/-- One more act, without a window. -/
theorem inline_act (i : Inline before w.calls) (rules_eq : w.rules = rules) (a : Act) :
    Inline (before ++ (a.order? rules 0).toList.map (w.calls.now, ·)) (w.act a).calls := by
  rw [calls_act rules_eq i.timeout_eq]
  split
  · rename_i e order
    rw [order, Debounced.cancel_of_not_pending i.phase]
    exact i.call e
  · rename_i order
    rw [order]
    exact i.cancel
  · exact (List.append_nil before).symm ▸ i.advance _
  · rename_i order
    rw [order]
    exact (List.append_nil before).symm ▸ i

theorem rules_actAll (w : Watch) (acts : List Act) : (w.actAll acts).rules = w.rules := by
  induction acts generalizing w with
  | nil => rfl
  | cons a rest ih => exact (ih (w.act a)).trans (rules_act w a)

/-- What is seen of a handler after a run. -/
structure Watched (rules : RuleSet) (timeout : Nat) (orders : Orders (Event StateChange))
    (w : Watch) : Prop where
  /-- An error is an event that qualifies and cancels. -/
  fails : ∀ event error, w.observe event = .error error ↔
    (rules.Qualifies event.data ∧ rules.Cancels timeout event.data) ∧
      error = .contradiction event.data.entityId
  /-- An event that does both or neither changes nothing. -/
  idle : ∀ event, (rules.Qualifies event.data ↔ rules.Cancels timeout event.data) →
    w.act (.event event) = w
  slot : 0 < timeout → OneSlot timeout orders w.calls
  /-- With a window, an event is delivered at the end of its window, exactly if
  it is a call that no order follows before that. -/
  delivered : 0 < timeout → ∀ due event, (due, event) ∈ w.calls.begun ↔
    ∃ first time later, orders = first ++ (time, .call event) :: later ∧
      due = time + timeout ∧ due ≤ w.calls.now ∧ ∀ o ∈ later, due ≤ o.1
  /-- Without a window, every event that qualifies is delivered at once. -/
  inline : timeout = 0 → Inline orders w.calls
  never_cancels : timeout = 0 → ∀ change, ¬ rules.Cancels timeout change

/-- An event fails if it both qualifies and cancels. -/
theorem fails_iff (rules_eq : w.rules = rules) (timeout_eq : w.calls.debouncer.timeout = timeout)
    (event : Event StateChange) (error : TriggerError) :
    w.observe event = .error error ↔
      (rules.Qualifies event.data ∧ rules.Cancels timeout event.data) ∧
        error = .contradiction event.data.entityId := by
  unfold observe
  rw [verdict_eq rules_eq timeout_eq]
  by_cases qualifies : rules.Qualifies event.data <;>
    by_cases cancels : rules.Cancels timeout event.data <;>
      simp [qualifies, cancels, eq_comm]

/-- An event that both qualifies and cancels, or does neither, changes nothing. -/
theorem act_of_both (rules_eq : w.rules = rules)
    (timeout_eq : w.calls.debouncer.timeout = timeout) {event : Event StateChange}
    (both : rules.Qualifies event.data ↔ rules.Cancels timeout event.data) :
    w.act (.event event) = w := by
  rw [act_event, verdict_eq rules_eq timeout_eq]
  by_cases qualifies : rules.Qualifies event.data <;> simp [qualifies, ← both]

/-- In every run a handler reports the events that qualify and cancel, and
delivers those that only qualify and that nothing follows within their windows
that qualifies or cancels. -/
theorem watched (rules : RuleSet) (timeout : Nat) (callback : Callback) (acts : List Act) :
    Watched rules timeout
      ((ofHandler (.ofRules rules timeout callback)).orders rules timeout acts)
      ((ofHandler (.ofRules rules timeout callback)).actAll acts) := by
  have rules_eq : ((ofHandler (.ofRules rules timeout callback)).actAll acts).rules = rules :=
    rules_actAll _ acts
  rcases Nat.eq_zero_or_pos timeout with rfl | pos
  · have inline := run_induction (P := Inline) (w := ofHandler (.ofRules rules 0 callback))
      (fun _ _ a i rules_eq => inline_act i rules_eq a) (Debounced.inline_new callback.delivery)
      rfl acts
    exact
      { fails := fails_iff rules_eq inline.timeout_eq
        idle := fun _ => act_of_both rules_eq inline.timeout_eq
        slot := fun pos => absurd pos (Nat.lt_irrefl 0)
        delivered := fun pos => absurd pos (Nat.lt_irrefl 0)
        inline := fun _ => inline
        never_cancels := fun _ _ cancels => Nat.lt_irrefl 0 cancels.1 }
  · have follows := run_induction (P := Follows timeout)
      (w := ofHandler (.ofRules rules timeout callback))
      (fun _ _ a f rules_eq => follows_act f rules_eq pos a)
      (Debounced.follows_new timeout callback.delivery) rfl acts
    have slot := follows.oneSlot pos
    exact
      { fails := fails_iff rules_eq follows.timeout_eq
        idle := fun _ => act_of_both rules_eq follows.timeout_eq
        slot := fun _ => slot
        delivered := fun _ _ _ => slot.mem_begun_iff
        inline := fun zero => absurd zero (Nat.ne_of_gt pos)
        never_cancels := fun zero => absurd zero (Nat.ne_of_gt pos) }

/-- Lights call and fans cancel; scenes do both and locks neither, so that the
first call is delivered in spite of them. -/
theorem watched_scene :
    let at_ (domains : List String) : Rule := .ofCondition
      (.custom "domain" fun change => domains.contains change.entityId.domain)
    let rules : RuleSet := ⟨[at_ ["light", "scene"]], [], [at_ ["fan", "scene"]]⟩
    let about (id : EntityId) : Act := .event
      ⟨stateChanged, ⟨id, none, none⟩, .local, ⟨⟨2024, 1, 1⟩, 0, 0, 0, 0⟩, .withId "c"⟩
    let light := about ⟨"light", "lamp", by decide, by decide⟩
    let fan := about ⟨"fan", "lamp", by decide, by decide⟩
    let scene := about ⟨"scene", "lamp", by decide, by decide⟩
    let lock := about ⟨"lock", "lamp", by decide, by decide⟩
    let acts := [light, .advance 3, scene, lock, .advance 2, light, .advance 1, fan, light, .cancel,
      .advance 9]
    let w := ofHandler (.ofRules rules 5 (.script (.plain "s")))
    0 < 5 ∧ Watched rules 5 (w.orders rules 5 acts) (w.actAll acts) ∧
      (w.actAll acts).calls.begun.map Prod.fst = [5] :=
  ⟨by decide, watched _ 5 _ _, by decide⟩

end Watch

end HubAutomation
