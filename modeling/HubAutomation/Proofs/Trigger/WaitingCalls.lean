import HubAutomation.Proofs.Trigger.Consistency

/-!
# The call that waits

A handler made of a chain has at most one call that waits. What an event does to
it can be said in the words of the chain: an event that the chain asks for arms
a new call, one that takes it back withdraws the call, and any other event
leaves everything as it was.

- `Chain.Arms`, `Chain.Withdraws`: what an event does by what the chain says.
- `Watch.Settles`: the handler after an event.
- `Watch.exists_act_of_order`: an order of a run was given by one of its acts.
- `Watch.delivered_undisturbed`: what happened while a delivered call waited.
- `Watch.GivenUpBy`: the changes that withdraw the call of a handler.
-/

namespace HubAutomation

/-! ### The slot -/

namespace Debounced

variable {α : Type}

@[simp] theorem now_cancel (d : Debounced α) : d.cancel.2.now = d.now := rfl

@[simp] theorem timeout_cancel (d : Debounced α) :
    d.cancel.2.debouncer.timeout = d.debouncer.timeout := Debouncer.timeout_cancel d.debouncer

@[simp] theorem waiting_cancel (d : Debounced α) : d.cancel.2.waiting = none := by
  rcases cancel_eq d with ⟨e, idle⟩ | e
  · rw [e, idle]
  · rw [e]
    rfl

/-- A call waits for its whole window. -/
theorem waiting_call {d : Debounced α} (pos : 0 < d.debouncer.timeout) (payload : α) :
    (d.call payload).waiting = some (d.now + d.debouncer.timeout, payload) := by
  rw [call_eq pos]
  rfl

end Debounced

namespace Watch

variable {w : Watch} {rules : RuleSet} {timeout : Nat} {acts : List Act}

/-! ### Orders and the acts that give them -/

open Debounced (Follows OneSlot)

theorem actAll_append (w : Watch) (acts more : List Act) :
    w.actAll (acts ++ more) = (w.actAll acts).actAll more := List.foldl_append

/-- An order of a run was given by one of its acts, at the time of that act, and
the orders after it are those of the acts after that one. -/
theorem exists_act_of_order {first later : Orders (Event StateChange)} {time : Nat}
    {order : Order (Event StateChange)}
    (h : w.orders rules timeout acts = first ++ (time, order) :: later) :
    ∃ before a after, acts = before ++ a :: after ∧ a.order? rules timeout = some order ∧
      time = (w.actAll before).calls.now ∧
      later = (w.actAll (before ++ [a])).orders rules timeout after := by
  induction acts generalizing w first with
  | nil => exact absurd h.symm (by simp [orders])
  | cons a rest ih =>
    rw [orders] at h
    cases ordered : a.order? rules timeout with
    | none =>
      rw [ordered] at h
      obtain ⟨before, b, after, rfl, of, time_eq, later_eq⟩ := ih h
      exact ⟨a :: before, b, after, rfl, of, time_eq, later_eq⟩
    | some own =>
      -- the order is the one of this act, or one of a later act
      rw [ordered] at h
      cases first with
      | nil =>
        obtain ⟨⟨rfl, rfl⟩, rfl⟩ : (w.calls.now = time ∧ own = order) ∧
            (w.act a).orders rules timeout rest = later := by simpa using h
        exact ⟨[], a, rest, rfl, ordered, rfl, rfl⟩
      | cons o first =>
        obtain ⟨-, h⟩ := List.cons_eq_cons.1 h
        obtain ⟨before, b, after, rfl, of, time_eq, later_eq⟩ := ih h
        exact ⟨a :: before, b, after, rfl, of, time_eq, later_eq⟩

/-- An act gives its order at its time. -/
theorem mem_orders {before after : List Act} {a : Act} {order : Order (Event StateChange)}
    (h : a.order? rules timeout = some order) :
    ((w.actAll before).calls.now, order) ∈ w.orders rules timeout (before ++ a :: after) := by
  induction before generalizing w with
  | nil =>
    show _ ∈ (a.order? rules timeout).toList.map (w.calls.now, ·) ++ _
    rw [h]
    exact List.mem_cons_self
  | cons b before ih =>
    rw [List.cons_append, orders, actAll_cons]
    exact List.mem_append_right _ ih

/-- Only an event that qualifies is a call. -/
theorem order?_eq_call {a : Act} {e : Event StateChange}
    (h : a.order? rules timeout = some (.call e)) : a = .event e ∧ rules.Qualifies e.data := by
  cases a with
  | cancel => cases h
  | advance milliseconds => cases h
  | event own =>
    unfold Act.order? at h
    by_cases qualifies : rules.Qualifies own.data <;>
      by_cases cancels : rules.Cancels timeout own.data <;> simp [qualifies, cancels] at h
    subst h
    exact ⟨rfl, qualifies⟩

/-- An event gives no order if it neither qualifies nor cancels, or does both. -/
theorem order?_event_eq_none {e : Event StateChange} :
    (Act.event e).order? rules timeout = none ↔
      (rules.Qualifies e.data ↔ rules.Cancels timeout e.data) := by
  unfold Act.order?
  by_cases qualifies : rules.Qualifies e.data <;>
    by_cases cancels : rules.Cancels timeout e.data <;> simp [qualifies, cancels]

/-- The orders and the slot of a sealed handler agree. -/
theorem follows_ofRules (rules : RuleSet) (pos : 0 < timeout) (callback : Callback)
    (acts : List Act) :
    Follows timeout
      ((ofHandler (.ofRules rules timeout callback)).orders rules timeout acts)
      ((ofHandler (.ofRules rules timeout callback)).actAll acts).calls := by
  have follows := run_induction (P := Follows timeout)
    (w := ofHandler (.ofRules rules timeout callback))
    (fun _ _ a f rules_eq => follows_act f rules_eq pos a)
    (Debounced.follows_new timeout callback.delivery) rfl acts
  exact follows

/-- A delivered call was armed by an event, and until its window ended nothing
was ordered. -/
theorem delivered_undisturbed {callback : Callback} (pos : 0 < timeout) {due : Nat}
    {payload : Event StateChange}
    (delivered : (due, payload) ∈
      ((ofHandler (.ofRules rules timeout callback)).actAll acts).calls.begun) :
    ∃ before after, acts = before ++ .event payload :: after ∧ rules.Qualifies payload.data ∧
      due = ((ofHandler (.ofRules rules timeout callback)).actAll before).calls.now + timeout ∧
      ∀ between a rest, after = between ++ a :: rest →
        ((ofHandler (.ofRules rules timeout callback)).actAll
          (before ++ .event payload :: between)).calls.now < due →
        a.order? rules timeout = none := by
  have slot := (follows_ofRules rules pos callback acts).oneSlot pos
  obtain ⟨first, time, later, split, rfl, -, undisturbed⟩ := slot.mem_begun_iff.1 delivered
  obtain ⟨before, a, after, rfl, ordered, rfl, rfl⟩ := exists_act_of_order split
  obtain ⟨rfl, qualifies⟩ := order?_eq_call ordered
  refine ⟨before, after, rfl, qualifies, rfl, ?_⟩
  rintro between a rest rfl early
  -- an order would be among those after the call, which are all late
  cases ordered : a.order? rules timeout with
  | none => rfl
  | some order =>
    have late := undisturbed _ (mem_orders ordered)
    rw [← actAll_append, List.append_assoc, List.singleton_append] at late
    exact absurd early (Nat.not_lt_of_le late)

end Watch

/-! ### In the words of the chain -/

namespace Chain

variable {subject : Subject} {steps : List Step} {d : Draft} {change : StateChange}

/-- The change is what the chain asks for. -/
def Arms (subject : Subject) (steps : List Step) (change : StateChange) : Prop :=
  subject.Picks change ∧ (∀ f, Names steps f → f.Differs change) ∧
    (∀ f v, Leaves steps f v → f.Is .old v change) ∧
    ∀ f v, Reaches steps f v → f.Is .new v change

/-- The change takes back what the chain asks for: each field that was to leave
a value has it, and each one that was to reach a value had it before. -/
def Withdraws (subject : Subject) (steps : List Step) (change : StateChange) : Prop :=
  (∃ f v, Leaves steps f v ∨ Reaches steps f v) ∧ subject.Picks change ∧
    (∀ f v, Leaves steps f v → f.Is .new v change) ∧
    ∀ f v, Reaches steps f v → f.Is .old v change

theorem Means.qualifies_iff (m : Means subject steps d) :
    d.rules.Qualifies change ↔ Arms subject steps change :=
  RuleSet.allCall_eq_true.symm.trans (m.calls change)

/-- In a window, a chain is cancelled by what withdraws it. -/
theorem Means.cancels_iff (m : Means subject steps d) (pos : 0 < d.timeout) :
    d.rules.Cancels d.timeout change ↔ Withdraws subject steps change := by
  have withdraws := RuleSet.allCancel_eq_true.symm.trans (m.cancels change)
  exact (and_iff_right pos).trans withdraws

/-- No change both arms a chain and withdraws it. -/
theorem Means.not_both (m : Means subject steps d) :
    ¬ (Arms subject steps change ∧ Withdraws subject steps change) := by
  rintro ⟨arms, withdraws⟩
  exact m.exclusive change ⟨(m.calls change).2 arms, (m.cancels change).2 withdraws⟩

end Chain

namespace Watch

open Chain (Arms Withdraws Means)

variable {subject : Subject} {steps : List Step} {d : Draft} {callback : Callback}
  {acts : List Act}

/-- What an event does to a handler made of a chain with a window. -/
structure Settles (subject : Subject) (steps : List Step) (timeout : Nat) (w : Watch)
    (e : Event StateChange) : Prop where
  timeout_eq : w.calls.debouncer.timeout = timeout
  armed : Arms subject steps e.data → (w.act (.event e)).calls = w.calls.cancel.2.call e
  withdrawn : Withdraws subject steps e.data → (w.act (.event e)).calls = w.calls.cancel.2
  idle : ¬ Arms subject steps e.data → ¬ Withdraws subject steps e.data → w.act (.event e) = w

/-- What each kind of event does to a call that waits. -/
theorem settles (m : Means subject steps d) (pos : 0 < d.timeout) (callback : Callback)
    (acts : List Act) (e : Event StateChange) :
    Settles subject steps d.timeout ((ofHandler (.ofDraft d callback)).actAll acts) e := by
  have rules_eq : ((ofHandler (.ofDraft d callback)).actAll acts).rules = d.rules :=
    rules_actAll _ acts
  have timeout_eq :
      ((ofHandler (.ofDraft d callback)).actAll acts).calls.debouncer.timeout = d.timeout :=
    (follows_ofRules d.rules pos callback acts).timeout_eq
  have judged := verdict_eq rules_eq timeout_eq e.data
  refine ⟨timeout_eq, ?_, ?_, ?_⟩
  · intro arms
    have not_cancels : ¬ d.rules.Cancels d.timeout e.data := by
      intro cancels
      exact m.not_both ⟨arms, (m.cancels_iff pos).1 cancels⟩
    rw [if_pos (m.qualifies_iff.2 arms), if_neg not_cancels] at judged
    rw [act_event, judged]
  · intro withdraws
    have not_qualifies : ¬ d.rules.Qualifies e.data := by
      intro qualifies
      exact m.not_both ⟨m.qualifies_iff.1 qualifies, withdraws⟩
    rw [if_neg not_qualifies, if_pos ((m.cancels_iff pos).2 withdraws)] at judged
    rw [act_event, judged, cancel]
  · intro not_arms not_withdraws
    rw [if_neg (not_arms ∘ m.qualifies_iff.1),
      if_neg (not_withdraws ∘ (m.cancels_iff pos).1)] at judged
    rw [act_event, judged]

namespace Settles

variable {timeout : Nat} {w : Watch} {e : Event StateChange}

/-- An event that arms a chain starts its window again. -/
theorem waiting_armed (s : Settles subject steps timeout w e) (pos : 0 < timeout)
    (arms : Arms subject steps e.data) :
    (w.act (.event e)).calls.waiting = some (w.calls.now + timeout, e) := by
  have isPos : 0 < w.calls.cancel.2.debouncer.timeout := by
    rwa [Debounced.timeout_cancel, s.timeout_eq]
  rw [s.armed arms, Debounced.waiting_call isPos, Debounced.now_cancel, Debounced.timeout_cancel,
    s.timeout_eq]

/-- An event that withdraws a chain empties the slot. -/
theorem waiting_withdrawn (s : Settles subject steps timeout w e)
    (withdraws : Withdraws subject steps e.data) : (w.act (.event e)).calls.waiting = none := by
  rw [s.withdrawn withdraws, Debounced.waiting_cancel]

/-- A call that waits is given up exactly at an event that withdraws it. -/
theorem waiting_eq_none_iff (s : Settles subject steps timeout w e) (pos : 0 < timeout)
    {due : Nat} {payload : Event StateChange} (waits : w.calls.waiting = some (due, payload)) :
    (w.act (.event e)).calls.waiting = none ↔ Withdraws subject steps e.data := by
  refine ⟨fun gone => ?_, s.waiting_withdrawn⟩
  by_cases arms : Arms subject steps e.data
  · rw [s.waiting_armed pos arms] at gone
    cases gone
  · by_contra not_withdraws
    rw [s.idle arms not_withdraws, waits] at gone
    cases gone

end Settles

/-- A handler that is shown an event for the first time. -/
theorem calls_first {e : Event StateChange} (m : Means subject steps d) (pos : 0 < d.timeout)
    (callback : Callback) (arms : Arms subject steps e.data) :
    ((ofHandler (.ofDraft d callback)).actAll [.event e]).calls =
      (Debounced.new d.timeout callback.delivery).call e :=
  (settles m pos callback [] e).armed arms

/-- The first event that arms a chain opens its window. -/
theorem waiting_first {e : Event StateChange} (m : Means subject steps d) (pos : 0 < d.timeout)
    (callback : Callback) (arms : Arms subject steps e.data) :
    ((ofHandler (.ofDraft d callback)).actAll [.event e]).calls.waiting =
      some (d.timeout, e) := by
  have isPos : 0 < (Debounced.new d.timeout callback.delivery).debouncer.timeout := pos
  rw [calls_first m pos callback arms, Debounced.waiting_call isPos]
  exact congrArg (fun due => some (due, e)) (Nat.zero_add d.timeout)

/-- Until the window of a delivered call ended, nothing took back what the chain
asks for, and nothing asked for it again. -/
theorem undisturbed_of_delivered (m : Means subject steps d) (pos : 0 < d.timeout) {due : Nat}
    {payload : Event StateChange}
    (delivered : (due, payload) ∈ ((ofHandler (.ofDraft d callback)).actAll acts).calls.begun) :
    ∃ before after, acts = before ++ .event payload :: after ∧ Arms subject steps payload.data ∧
      due = ((ofHandler (.ofDraft d callback)).actAll before).calls.now + d.timeout ∧
      ∀ between e rest, after = between ++ .event e :: rest →
        ((ofHandler (.ofDraft d callback)).actAll
          (before ++ .event payload :: between)).calls.now < due →
        ¬ Arms subject steps e.data ∧ ¬ Withdraws subject steps e.data := by
  obtain ⟨before, after, rfl, qualifies, due_eq, undisturbed⟩ :=
    delivered_undisturbed pos delivered
  refine ⟨before, after, rfl, m.qualifies_iff.1 qualifies, due_eq, ?_⟩
  intro between e rest split early
  have silent := order?_event_eq_none.1 (undisturbed between (.event e) rest split early)
  rw [m.qualifies_iff, m.cancels_iff pos] at silent
  refine ⟨fun arms => m.not_both ⟨arms, silent.1 arms⟩, fun withdraws => ?_⟩
  exact m.not_both ⟨silent.2 withdraws, withdraws⟩

/-- Changes of one kind, and no others, make a handler give up the call that
waits. -/
structure GivenUpBy (subject : Subject) (steps : List Step) (d : Draft) (callback : Callback)
    (kind : StateChange → Prop) : Prop where
  given_up : ∀ acts due payload (e : Event StateChange),
    ((ofHandler (.ofDraft d callback)).actAll acts).calls.waiting = some (due, payload) →
      ((((ofHandler (.ofDraft d callback)).actAll acts).act (.event e)).calls.waiting = none ↔
        kind e.data)
  /-- What the chain asks for takes the place of the call that waits. -/
  replaced : ∀ acts (e : Event StateChange), Arms subject steps e.data →
    (((ofHandler (.ofDraft d callback)).actAll acts).act (.event e)).calls.waiting =
      some (((ofHandler (.ofDraft d callback)).actAll acts).calls.now + d.timeout, e)
  /-- Any other event leaves the call, its payload and its deadline. -/
  kept : ∀ acts (e : Event StateChange), ¬ Arms subject steps e.data → ¬ kind e.data →
    ((ofHandler (.ofDraft d callback)).actAll acts).act (.event e) =
      (ofHandler (.ofDraft d callback)).actAll acts
  /-- A delivered call was armed by its payload, a window ago, and no such change
  was seen since. -/
  delivered : ∀ acts due payload,
    (due, payload) ∈ ((ofHandler (.ofDraft d callback)).actAll acts).calls.begun →
      ∃ before after, acts = before ++ .event payload :: after ∧
        Arms subject steps payload.data ∧
        due = ((ofHandler (.ofDraft d callback)).actAll before).calls.now + d.timeout ∧
        ∀ between e rest, after = between ++ .event e :: rest →
          ((ofHandler (.ofDraft d callback)).actAll
            (before ++ .event payload :: between)).calls.now < due →
          ¬ kind e.data

/-- A call is given up by events of some kind if these are what withdraws it. -/
theorem givenUpBy {kind : StateChange → Prop} (m : Means subject steps d) (pos : 0 < d.timeout)
    (callback : Callback) (withdraws_iff : ∀ change, Withdraws subject steps change ↔ kind change) :
    GivenUpBy subject steps d callback kind where
  given_up := by
    intro acts due payload e waits
    exact ((settles m pos callback acts e).waiting_eq_none_iff pos waits).trans
      (withdraws_iff e.data)
  replaced := by
    intro acts e arms
    exact (settles m pos callback acts e).waiting_armed pos arms
  kept := by
    intro acts e not_arms other
    exact (settles m pos callback acts e).idle not_arms (other ∘ (withdraws_iff e.data).1)
  delivered := by
    intro acts due payload delivered
    obtain ⟨before, after, split, arms, due_eq, undisturbed⟩ :=
      undisturbed_of_delivered m pos delivered
    refine ⟨before, after, split, arms, due_eq, ?_⟩
    intro between e rest later early
    exact (undisturbed between e rest later early).2 ∘ (withdraws_iff e.data).2

end Watch

/-! ### A lamp -/

namespace Chain

theorem isDomain_light : EntityId.isDomain "light" = true := by decide

theorem isObjectId_lamp : EntityId.isObjectId "lamp" = true := by decide

def lamp : EntityId := ⟨"light", "lamp", isDomain_light, isObjectId_lamp⟩

/-- The lamp shows a value and a brightness, and then others. -/
def lampShows (before after : String × Int) : Event StateChange :=
  let midnight : Instant := ⟨⟨2024, 1, 1⟩, 0, 0, 0, 0⟩
  let shows (now : String × Int) : State :=
    ⟨lamp, now.1, [("brightness", .number (.int now.2))], midnight, midnight, none, .withId "c"⟩
  ⟨stateChanged, ⟨lamp, some (shows before), some (shows after)⟩, .local, midnight, .withId "c"⟩

def lampGoesOff : Event StateChange := lampShows ("on", 9) ("off", 9)
def lampGoesOn : Event StateChange := lampShows ("off", 9) ("on", 9)

/-- The last window of a chain counts. -/
theorem timeout_of_lasts {subject : Subject} {d : Draft} (before : List Step) {amount : Nat}
    {unit : String} {u : TimeUnit}
    (compiled : Draft.compile subject (before ++ [.lasts amount unit]) = .ok d)
    (named : TimeUnit.ofName? unit = some u) : d.timeout = u.milliseconds amount := by
  obtain ⟨first, -, applied⟩ := Draft.compile_eq_ok.1 compiled
  have last : NoWindow [] := nofun
  obtain ⟨u', named', timeout⟩ := timeout_applyAll_lasts last applied
  rw [named] at named'
  cases named'
  exact timeout

theorem hasBeenOff_timeout {d : Draft}
    (compiled : Draft.compile (.entity "light.lamp") hasBeenOff = .ok d) : d.timeout = 300 :=
  timeout_of_lasts [.reaches .state (.string "off"), .lasts 5 "s"] compiled
    (rfl : TimeUnit.ofName? "ms" = some .millisecond)

theorem hasBeenOff_pos {d : Draft}
    (compiled : Draft.compile (.entity "light.lamp") hasBeenOff = .ok d) : 0 < d.timeout := by
  rw [hasBeenOff_timeout compiled]
  decide

theorem hasBeenOff_arms : Arms (.entity "light.lamp") hasBeenOff lampGoesOff.data :=
  ⟨by rfl, holds_steps_call.1 (by decide)⟩

end Chain

end HubAutomation
