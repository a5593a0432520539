import HubAutomation.Proofs.Trigger.WaitingCalls

/-!
# Events of other entities

A trigger on an entity begins with the filter on it, as a call rule and as a
scope rule, and the steps of its chain only add rules to these. So an event of
another entity neither qualifies nor cancels, also when it meets every cancel
rule, and two runs that differ in such events only are the same to the trigger.

- `Chain.filter_mem`: the filter stands in both groups.
- `Watch.heard`: a run without the events of other entities.
- `Watch.others_unnoticed`: runs that are heard as one are followed in lockstep.
-/

namespace HubAutomation

namespace Chain

variable {text : String} {id : EntityId} {steps : List Step} {d : Draft} {change : StateChange}

/-- The filter is the first rule of both groups. A rule that stands is never
taken out, so this asks nothing of the hash. -/
theorem filter_mem (compiled : Draft.compile (.entity text) steps = .ok d)
    (named : EntityId.parse text = .ok id) {g : RuleGroup} (ne : g ≠ .cancel) :
    .ofCondition (.entity id) ∈ d.rules.group g := by
  obtain ⟨first, started, applied⟩ := Draft.compile_eq_ok.1 compiled
  have starts : first.rules.group g = RuleSet.insertAll [] ((Subject.entity text).asks g) :=
    group_start started g
  have asks : (Subject.entity text).asks g = [.entity id] := by
    cases g with
    | call | scope => rw [Subject.asks, Subject.condition?_entity named, Option.toList_some]
    | cancel => exact absurd rfl ne
  rw [group_applyAll applied, starts, asks]
  exact RuleSet.mem_insertAll_of_mem (List.mem_singleton.2 rfl)

theorem not_holds_filter (other : change.entityId ≠ id) :
    ¬ (Rule.ofCondition (.entity id)).holds change = true := by
  intro holds
  exact other (beq_iff_eq.1 holds)

/-- The rules of a trigger on an entity make nothing of a change of another
one. -/
theorem judge_other (compiled : Draft.compile (.entity text) steps = .ok d)
    (named : EntityId.parse text = .ok id) (other : change.entityId ≠ id) (timeout : Nat) :
    d.rules.judge timeout change = .nothing := by
  have qualifies : ¬ d.rules.Qualifies change := by
    intro all
    exact not_holds_filter other (all _ (filter_mem compiled named (g := .call) nofun))
  have cancels : ¬ d.rules.Cancels timeout change := by
    rintro ⟨-, -, scope, -⟩
    exact not_holds_filter other (scope _ (filter_mem compiled named (g := .scope) nofun))
  rw [RuleSet.judge_eq, if_neg qualifies, if_neg cancels]

end Chain

namespace Watch

/-! ### What is heard of a run -/

/-- Everything but an event of another entity. -/
def Act.concerns (id : EntityId) : Act → Bool
  | .event e => e.data.entityId == id
  | .cancel | .advance _ => true

/-- The run without the events of other entities. -/
def heard (id : EntityId) (acts : List Act) : List Act := acts.filter (·.concerns id)

section

variable {id : EntityId} {acts before after : List Act} {a : Act} {e : Event StateChange}

theorem not_concerns (other : e.data.entityId ≠ id) : ¬ (Act.event e).concerns id = true := by
  intro concerns
  exact other (beq_iff_eq.1 concerns)

theorem other_of_not_concerns (h : ¬ a.concerns id = true) :
    ∃ e, a = .event e ∧ e.data.entityId ≠ id := by
  cases a with
  | event e => exact ⟨e, rfl, fun same => h (beq_iff_eq.2 same)⟩
  | cancel | advance => exact absurd rfl h

/-- An event of another entity can be put in or taken out anywhere. -/
theorem heard_insert (other : e.data.entityId ≠ id) (before after : List Act) :
    heard id (before ++ .event e :: after) = heard id (before ++ after) := by
  unfold heard
  rw [List.filter_append, List.filter_append, List.filter_cons_of_neg (not_concerns other)]

/-- Where a run that is heard in the same way stands. -/
theorem heard_split (same : heard id acts = heard id (before ++ after)) :
    ∃ before' after', acts = before' ++ after' ∧ heard id before' = heard id before ∧
      heard id after' = heard id after := by
  unfold heard at same
  rw [List.filter_append] at same
  exact List.filter_eq_append_iff.1 same

end

/-! ### Runs -/

variable {id : EntityId} {rules : RuleSet} {w : Watch}

theorem observe_of_nothing {e : Event StateChange} (nothing : w.verdict e.data = .nothing) :
    w.observe e = .ok w := by
  rw [observe, nothing]

/-- A run comes to the same as what is heard of it. -/
theorem actAll_heard
    (ignores : ∀ timeout change, change.entityId ≠ id → rules.judge timeout change = .nothing)
    (w : Watch) (rules_eq : w.rules = rules) (acts : List Act) :
    w.actAll (heard id acts) = w.actAll acts := by
  induction acts generalizing w with
  | nil => rfl
  | cons a rest ih =>
    -- the rules stay as they are, so the rest is followed from the next state
    have later := ih (w.act a) ((rules_act w a).trans rules_eq)
    by_cases concerns : a.concerns id = true
    · rw [heard, List.filter_cons_of_pos concerns]
      exact later
    · obtain ⟨e, rfl, other⟩ := other_of_not_concerns concerns
      have nothing : w.verdict e.data = .nothing := by
        rw [verdict, rules_eq]
        exact ignores _ _ other
      have stays : w.act (.event e) = w := by rw [act_event, nothing]
      rw [stays] at later
      rw [heard, List.filter_cons_of_neg concerns, actAll_cons, stays]
      exact later

/-- To a trigger on an entity, runs that differ only in events of other entities
are the same: they end in one state, with the same deliveries and the same call
waiting, and wherever the one stands, the other comes by in the same state. Such
an event is never refused, and changes nothing at any moment. -/
theorem others_unnoticed {text : String} {steps : List Step} {d : Draft}
    (compiled : Draft.compile (.entity text) steps = .ok d)
    (named : EntityId.parse text = .ok id) (callback : Callback) :
    (∀ acts acts', heard id acts' = heard id acts →
      (ofHandler (.ofDraft d callback)).actAll acts' =
        (ofHandler (.ofDraft d callback)).actAll acts ∧
      ∀ before after, acts = before ++ after →
        ∃ before' after', acts' = before' ++ after' ∧ heard id before' = heard id before ∧
          heard id after' = heard id after ∧
          (ofHandler (.ofDraft d callback)).actAll before' =
            (ofHandler (.ofDraft d callback)).actAll before) ∧
    (∀ acts e, e.data.entityId ≠ id →
      ((ofHandler (.ofDraft d callback)).actAll acts).observe e =
        .ok ((ofHandler (.ofDraft d callback)).actAll acts)) ∧
    ∀ h : TriggerHandler, h.rules = d.rules → ∀ now (e : Event StateChange),
      e.data.entityId ≠ id → h.meet now e = ⟨h, false, none⟩ := by
  have ignores : ∀ timeout change, change.entityId ≠ id →
      d.rules.judge timeout change = .nothing := fun timeout _ other =>
    Chain.judge_other compiled named other timeout
  have lockstep : ∀ acts acts', heard id acts' = heard id acts →
      (ofHandler (.ofDraft d callback)).actAll acts' =
        (ofHandler (.ofDraft d callback)).actAll acts := by
    intro acts acts' same
    rw [← actAll_heard ignores _ rfl acts', same, actAll_heard ignores _ rfl]
  refine ⟨?_, ?_, ?_⟩
  · intro acts acts' same
    refine ⟨lockstep acts acts' same, ?_⟩
    rintro before after rfl
    -- The other run is cut where it has heard as much.
    obtain ⟨before', after', split, first, later⟩ := heard_split same
    exact ⟨before', after', split, first, later, lockstep before before' first⟩
  · intro acts e other
    refine observe_of_nothing ?_
    rw [verdict, rules_actAll]
    exact ignores _ _ other
  · intro h rules_eq now e other
    rw [TriggerHandler.meet, rules_eq, ignores _ _ other]

/-- While the call for a lamp waits, a fan that was off goes on. The cancel rule
holds of it, and the call is made all the same. -/
theorem others_unnoticed_fan :
    let fan : EntityId := ⟨"fan", "attic", by decide, by decide⟩
    let fanGoesOn : Event StateChange :=
      { Chain.lampGoesOn with data := { Chain.lampGoesOn.data with entityId := fan } }
    ∃ d, Draft.compile (.entity "light.lamp") Chain.hasBeenOff = .ok d ∧
      EntityId.parse "light.lamp" = .ok Chain.lamp ∧
      (Rule.ofCondition (.equals .old .state (.string "off"))).holds fanGoesOn.data = true ∧
      let w := ofHandler (.ofDraft d (.script (.plain "s")))
      w.actAll [.event Chain.lampGoesOff, .event fanGoesOn] =
          w.actAll [.event Chain.lampGoesOff] ∧
        (w.actAll [.event Chain.lampGoesOff]).calls.waiting = some (300, Chain.lampGoesOff) ∧
        (w.actAll [.event Chain.lampGoesOff, .event fanGoesOn, .advance 300]).calls.begun =
          [(300, Chain.lampGoesOff)] := by
  intro fan fanGoesOn
  obtain ⟨d, compiled⟩ := Chain.hasBeenOff_compile
  have timeout_eq := Chain.hasBeenOff_timeout compiled
  have pos := Chain.hasBeenOff_pos compiled
  have means := Chain.means_of_compile compiled Chain.hasBeenOff_apart
  have other : fanGoesOn.data.entityId ≠ Chain.lamp := by decide
  have named : EntityId.parse "light.lamp" = .ok Chain.lamp := by rfl
  have unnoticed := (others_unnoticed compiled named (.script (.plain "s"))).1
  have first := calls_first means pos (.script (.plain "s")) Chain.hasBeenOff_arms
  have last : ((ofHandler (.ofDraft d (.script (.plain "s")))).actAll
      [.event Chain.lampGoesOff, .advance 300]).calls = _ :=
    congrArg (·.advance 300) first
  have whole : (ofHandler (.ofDraft d (.script (.plain "s")))).actAll
      [.event Chain.lampGoesOff, .event fanGoesOn, .advance 300] = _ :=
    (unnoticed _ _ (heard_insert other [.event Chain.lampGoesOff] [.advance 300])).1
  refine ⟨d, compiled, named, by rfl, ?_, ?_, ?_⟩
  · exact (unnoticed _ _ (heard_insert other [.event Chain.lampGoesOff] [])).1
  · rw [first, timeout_eq]
    rfl
  · rw [whole, List.singleton_append, last, timeout_eq]
    rfl

end Watch

end HubAutomation
