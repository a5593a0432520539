import HubAutomation.Proofs.Trigger.Chains
import HubAutomation.Proofs.Trigger.Fingerprints

/-!
# What a chain means

A chain is compiled to rules one step after the other, and a group drops a rule
whose digest it has already. What the rules ask in the end can be read off the
chain: which fields it names, which values it says they leave, and which they
reach.

- `Chain.Names`, `Chain.Leaves`, `Chain.Reaches`: what a chain says.
- `Chain.conditions`: the conditions that a chain adds to a group.
- `Chain.eq_of_fingerprint`: none of them is mistaken for another.
- `Chain.Means`: the meaning of a chain.
- `Chain.compiles`: a chain is compiled to its meaning.
-/

namespace HubAutomation

/-! ### What is said -/

namespace Field

/-- The field differs between the snapshots. A missing snapshot or attribute is a
value of its own. -/
def Differs (field : Field) (change : StateChange) : Prop :=
  sameValue (field.read? .old change) (field.read? .new change) = false

/-- The field has the value on a side. -/
def Is (field : Field) (side : Side) (value : Json) (change : StateChange) : Prop :=
  sameValue (field.read? side change) (some value) = true

end Field

/-- The change is one that the subject is about. -/
def Subject.Picks : Subject → StateChange → Prop
  | .everything, _ => True
  | .entity text, change => EntityId.parse text = .ok change.entityId
  | .custom _ predicate, change => predicate change = true

namespace Chain

/-- The chain says that the field leaves the value. -/
def Leaves (steps : List Step) (field : Field) (value : Json) : Prop := .leaves field value ∈ steps

/-- The chain says that the field reaches the value. -/
def Reaches (steps : List Step) (field : Field) (value : Json) : Prop :=
  .reaches field value ∈ steps ∨ field = .state ∧ .turns value ∈ steps

/-- The chain says that the field changes. -/
def Names (steps : List Step) (field : Field) : Prop :=
  .changesOf field ∈ steps ∨ ∃ value, Leaves steps field value ∨ Reaches steps field value

end Chain

/-! ### Conditions -/

/-- The conditions that a step adds to a group. -/
def Step.asks : Step → RuleGroup → List Condition
  | .changesOf field, .call => [.fieldChanged field]
  | .leaves field value, .call => [.fieldChanged field, .equals .old field value]
  | .leaves field value, .cancel => [.equals .new field value]
  | .reaches field value, .call => [.fieldChanged field, .equals .new field value]
  | .reaches field value, .cancel => [.equals .old field value]
  | .turns value, .call =>
    [.fieldChanged .state, .fieldChanged .state, .equals .new .state value]
  | .turns value, .cancel => [.equals .old .state value]
  | _, _ => []

/-- The condition that a subject stands for. -/
def Subject.condition? : Subject → Option Condition
  | .everything => some .always
  | .entity text => (EntityId.parse text).toOption.map .entity
  | .custom name predicate => some (.custom name predicate)

/-- The subject of a chain asks for its entity. -/
theorem Subject.condition?_entity {text : String} {id : EntityId}
    (parsed : EntityId.parse text = .ok id) :
    (Subject.entity text).condition? = some (.entity id) := by
  rw [Subject.condition?, parsed]
  rfl

/-- The conditions that a subject adds to a group. -/
def Subject.asks (subject : Subject) : RuleGroup → List Condition
  | .call => subject.condition?.toList
  | .scope =>
    match subject with
    | .entity _ => subject.condition?.toList
    | .everything | .custom _ _ => []
  | .cancel => []

namespace Chain

/-- The conditions that a chain adds to a group. -/
def conditions (subject : Subject) (steps : List Step) (g : RuleGroup) : List Condition :=
  subject.asks g ++ steps.flatMap (·.asks g)

variable {subject : Subject} {steps : List Step} {g : RuleGroup} {c : Condition}

/-- What steps ask of a call: that fields change, and are left at one value and
reached at another. -/
theorem mem_call_iff :
    c ∈ steps.flatMap (·.asks .call) ↔
      (∃ field, Names steps field ∧ c = .fieldChanged field) ∨
      (∃ field value, Leaves steps field value ∧ c = .equals .old field value) ∨
      ∃ field value, Reaches steps field value ∧ c = .equals .new field value := by
  rw [List.mem_flatMap]
  constructor
  · rintro ⟨s, mem, asked⟩
    cases s with
    | changesOf field => exact .inl ⟨field, .inl mem, List.mem_singleton.1 asked⟩
    | leaves field value =>
      rcases List.mem_cons.1 asked with rfl | asked
      · exact .inl ⟨field, .inr ⟨value, .inl mem⟩, rfl⟩
      · exact .inr (.inl ⟨field, value, mem, List.mem_singleton.1 asked⟩)
    | reaches field value =>
      rcases List.mem_cons.1 asked with rfl | asked
      · exact .inl ⟨field, .inr ⟨value, .inr (.inl mem)⟩, rfl⟩
      · exact .inr (.inr ⟨field, value, .inl mem, List.mem_singleton.1 asked⟩)
    | turns value =>
      have reaches : Reaches steps .state value := .inr ⟨rfl, mem⟩
      simp only [Step.asks, List.mem_cons, List.not_mem_nil, or_false, or_self_left] at asked
      rcases asked with rfl | rfl
      · exact .inl ⟨.state, .inr ⟨value, .inr reaches⟩, rfl⟩
      · exact .inr (.inr ⟨.state, value, reaches, rfl⟩)
    | changes | lasts | other => cases asked
  · rintro (⟨field, mem | ⟨value, mem | mem | ⟨rfl, mem⟩⟩, rfl⟩ | ⟨field, value, mem, rfl⟩ |
      ⟨field, value, mem | ⟨rfl, mem⟩, rfl⟩) <;> exact ⟨_, mem, by simp [Step.asks]⟩

/-- What steps ask of a cancellation: that the field has the value that was left, or
had the one that was reached. -/
theorem mem_cancel_iff :
    c ∈ steps.flatMap (·.asks .cancel) ↔
      (∃ field value, Leaves steps field value ∧ c = .equals .new field value) ∨
      ∃ field value, Reaches steps field value ∧ c = .equals .old field value := by
  rw [List.mem_flatMap]
  constructor
  · rintro ⟨s, mem, asked⟩
    cases s with
    | leaves field value => exact .inl ⟨field, value, mem, List.mem_singleton.1 asked⟩
    | reaches field value => exact .inr ⟨field, value, .inl mem, List.mem_singleton.1 asked⟩
    | turns value => exact .inr ⟨.state, value, .inr ⟨rfl, mem⟩, List.mem_singleton.1 asked⟩
    | changes | changesOf | lasts | other => cases asked
  · rintro (⟨field, value, mem, rfl⟩ | ⟨field, value, mem | ⟨rfl, mem⟩, rfl⟩) <;>
      exact ⟨_, mem, List.mem_singleton.2 rfl⟩

/-- Steps ask nothing about the scope of a chain. -/
theorem asks_scope (steps : List Step) : steps.flatMap (·.asks .scope) = [] :=
  List.flatMap_eq_nil_iff.2 fun s _ => by cases s <;> rfl

/-! ### Groups -/

/-- A step adds its conditions to each of the groups. -/
theorem group_addStep (rules : RuleSet) (s : Step) (g : RuleGroup) :
    (Draft.addStep rules s).group g = RuleSet.insertAll (rules.group g) (s.asks g) := by
  cases s <;> cases g <;> rfl

/-- Steps add their conditions one after another. -/
theorem group_applyAll {d d' : Draft} {number : Nat} (h : d.applyAll number steps = .ok d')
    (g : RuleGroup) :
    d'.rules.group g = RuleSet.insertAll (d.rules.group g) (steps.flatMap (·.asks g)) := by
  induction steps generalizing d number with
  | nil =>
    cases h
    rfl
  | cons s rest ih =>
    obtain ⟨next, applied, later⟩ := Draft.applyAll_cons.1 h
    obtain ⟨stage, timeout, -, -, rfl⟩ := Draft.apply_eq_ok.1 applied
    rw [ih later, group_addStep, List.flatMap_cons, RuleSet.insertAll_append]

/-- A chain begins with what its subject asks. -/
theorem group_start {d : Draft} (h : Draft.start subject = .ok d) (g : RuleGroup) :
    d.rules.group g = RuleSet.insertAll [] (subject.asks g) := by
  cases subject with
  | everything =>
    cases h
    cases g <;> rfl
  | custom name predicate =>
    cases h
    cases g <;> rfl
  | entity text =>
    obtain ⟨id, parsed, rfl⟩ := Draft.start_entity_eq_ok.1 h
    cases g <;> simp only [Subject.asks, Subject.condition?_entity parsed] <;> rfl

/-- The rules of a group are those of its conditions. -/
theorem group_compile {d : Draft} (h : Draft.compile subject steps = .ok d) (g : RuleGroup) :
    d.rules.group g = RuleSet.insertAll [] (conditions subject steps g) := by
  obtain ⟨first, started, applied⟩ := Draft.compile_eq_ok.1 h
  rw [group_applyAll applied, group_start started, conditions, RuleSet.insertAll_append]

/-! ### No condition for another -/

section

variable {f f' : Field} {v v' : Json} {body windows : List Step}

/-- The body of a chain says of one value at most that it is left. -/
theorem Body.leaves_unique (b : Body body) (h : Leaves body f v) (h' : Leaves body f' v') :
    f = f' ∧ v = v' := by
  unfold Leaves at h h'
  cases b with
  | spelled o b => cases o <;> cases b <;> simp at h h' <;> simp [h, h']
  | turns => simp at h
  | turnsLeaves =>
    simp at h h'
    simp [h, h']

/-- The body of a chain says of one value at most that it is reached. -/
theorem Body.reaches_unique (b : Body body) (h : Reaches body f v) (h' : Reaches body f' v') :
    f = f' ∧ v = v' := by
  unfold Reaches at h h'
  cases b with
  | spelled o b => cases o <;> cases b <;> simp at h h' <;> simp [h, h']
  | turns | turnsLeaves =>
    simp at h h'
    simp [h, h']

/-- A chain has its steps in front and its windows at the end. -/
theorem WellFormed.split (h : WellFormed subject steps) :
    ∃ body windows, steps = body ++ windows ∧ Body body ∧ Windows windows := by
  cases subject with
  | custom name predicate => exact ⟨[], [], h, .spelled .nothing .nothing, windows_nil⟩
  | entity text => exact h
  | everything => exact h

/-- A step that is no window stands in front of all windows. -/
theorem Windows.mem_body (w : Windows windows) {s : Step} (h : s ∈ body ++ windows)
    (ne : ∀ amount unit, s ≠ .lasts amount unit) : s ∈ body := by
  rcases List.mem_append.1 h with own | later
  · exact own
  · obtain ⟨amount, unit, e⟩ := w s later
    exact absurd e (ne amount unit)

/-- A chain leaves one value at most. -/
theorem WellFormed.leaves_unique (w : WellFormed subject steps) (h : Leaves steps f v)
    (h' : Leaves steps f' v') : f = f' ∧ v = v' := by
  obtain ⟨body, windows, rfl, b, w⟩ := w.split
  have inBody {f v} (h : Leaves (body ++ windows) f v) : Leaves body f v := w.mem_body h nofun
  exact b.leaves_unique (inBody h) (inBody h')

/-- A chain reaches one value at most. -/
theorem WellFormed.reaches_unique (w : WellFormed subject steps) (h : Reaches steps f v)
    (h' : Reaches steps f' v') : f = f' ∧ v = v' := by
  obtain ⟨body, windows, rfl, b, w⟩ := w.split
  have inBody {f v} (h : Reaches (body ++ windows) f v) : Reaches body f v :=
    h.imp (fun h => w.mem_body h nofun) fun h => ⟨h.1, w.mem_body h.2 nofun⟩
  exact b.reaches_unique (inBody h) (inBody h')

end

/-- A value that a group looks for on a side: on their own side the values that
fields leave and reach let an event qualify, on the other side they withdraw. -/
def Sought (steps : List Step) : RuleGroup → Side → Field → Json → Prop
  | .call, .old | .cancel, .new => Leaves steps
  | .call, .new | .cancel, .old => Reaches steps
  | .scope, _ => fun _ _ => False

/-- On each side a group asks for one value at most. -/
theorem WellFormed.sought_unique (w : WellFormed subject steps) {side : Side} {f f' : Field}
    {v v' : Json} (h : Sought steps g side f v) (h' : Sought steps g side f' v') :
    f = f' ∧ v = v' := by
  cases g <;> cases side <;>
    first | exact w.leaves_unique h h' | exact w.reaches_unique h h' | exact h.elim

/-- The conditions of a group come from the subject or from the steps, and those of
the steps are of two kinds. -/
theorem mem_conditions (h : c ∈ conditions subject steps g) :
    c ∈ subject.asks g ∨ (∃ field, c = .fieldChanged field) ∨
      ∃ side field value, Sought steps g side field value ∧ c = .equals side field value := by
  refine (List.mem_append.1 h).imp_right fun h => ?_
  cases g with
  | call =>
    rcases mem_call_iff.1 h with
      ⟨field, -, e⟩ | ⟨field, value, leaves, e⟩ | ⟨field, value, reaches, e⟩
    · exact .inl ⟨field, e⟩
    · exact .inr ⟨.old, field, value, leaves, e⟩
    · exact .inr ⟨.new, field, value, reaches, e⟩
  | scope =>
    rw [asks_scope] at h
    cases h
  | cancel =>
    rcases mem_cancel_iff.1 h with ⟨field, value, leaves, e⟩ | ⟨field, value, reaches, e⟩
    · exact .inr ⟨.new, field, value, leaves, e⟩
    · exact .inr ⟨.old, field, value, reaches, e⟩

/-- The subject asks for one condition. -/
theorem condition_of_subject (h : c ∈ subject.asks g) : subject.condition? = some c := by
  cases g with
  | call => exact Option.mem_toList.1 h
  | scope =>
    cases subject with
    | entity text => exact Option.mem_toList.1 h
    | everything | custom => cases h
  | cancel => cases h

/-- The kinds of conditions that come from the subject. -/
theorem kind_of_subject (h : subject.condition? = some c) :
    c.kind = "empty" ∨ c.kind = "entity" ∨ c.kind = "custom" := by
  cases subject with
  | everything =>
    cases h
    exact .inl rfl
  | entity text =>
    obtain ⟨id, -, rfl⟩ := Option.map_eq_some_iff.1 h
    exact .inr (.inl rfl)
  | custom name predicate =>
    cases h
    exact .inr (.inr rfl)

/-- No condition of a subject is of a kind that steps ask for. -/
theorem kind_ne_of_subject (h : c ∈ subject.asks g) :
    c.kind ≠ "field_changed" ∧ c.kind ≠ "equals" := by
  rcases kind_of_subject (condition_of_subject h) with e | e | e <;> rw [e] <;> decide

/-- Conditions of a group that have the same fingerprint are the same. -/
theorem eq_of_fingerprint (w : WellFormed subject steps) {a b : Condition}
    (ha : a ∈ conditions subject steps g) (hb : b ∈ conditions subject steps g)
    (same : a.fingerprint = b.fingerprint) : a = b := by
  have kinds : a.kind = b.kind := (Condition.kind_eq same).1
  have apart : "field_changed" ≠ "equals" := by decide
  rcases mem_conditions ha with sa | ⟨f, rfl⟩ | ⟨side, f, v, qa, rfl⟩ <;>
    rcases mem_conditions hb with sb | ⟨f', rfl⟩ | ⟨side', f', v', qb, rfl⟩
  · have both := condition_of_subject sa
    rw [condition_of_subject sb] at both
    exact (Option.some.inj both).symm
  · exact absurd kinds (kind_ne_of_subject sa).1
  · exact absurd kinds (kind_ne_of_subject sa).2
  · exact absurd kinds.symm (kind_ne_of_subject sb).1
  · rw [Condition.field_eq same]
  · exact absurd kinds apart
  · exact absurd kinds.symm (kind_ne_of_subject sb).2
  · exact absurd kinds.symm apart
  · obtain rfl := Condition.side_eq same
    obtain ⟨rfl, rfl⟩ := w.sought_unique qa qb
    rfl

/-! ### The meaning -/

section

variable {d : Draft} {change : StateChange}

/-- A field changes if it differs between the two states. -/
theorem holds_fieldChanged {f : Field} :
    (Condition.fieldChanged f).holds change = true ↔ f.Differs change := by
  rw [Condition.holds, Bool.not_eq_true', Field.Differs]

/-- What the steps ask of a call, condition by condition. -/
theorem holds_steps_call :
    (∀ c ∈ steps.flatMap (·.asks .call), c.holds change = true) ↔
      (∀ f, Names steps f → f.Differs change) ∧
      (∀ f v, Leaves steps f v → f.Is .old v change) ∧
      ∀ f v, Reaches steps f v → f.Is .new v change := by
  constructor
  · intro all
    exact ⟨fun f named => holds_fieldChanged.1 (all _ (mem_call_iff.2 (.inl ⟨f, named, rfl⟩))),
      fun f v leaves => all _ (mem_call_iff.2 (.inr (.inl ⟨f, v, leaves, rfl⟩))),
      fun f v reaches => all _ (mem_call_iff.2 (.inr (.inr ⟨f, v, reaches, rfl⟩)))⟩
  · rintro ⟨differs, old, new⟩ c mem
    rcases mem_call_iff.1 mem with ⟨f, named, rfl⟩ | ⟨f, v, leaves, rfl⟩ | ⟨f, v, reaches, rfl⟩
    · exact holds_fieldChanged.2 (differs f named)
    · exact old f v leaves
    · exact new f v reaches

/-- What the steps ask of a cancellation, condition by condition. -/
theorem holds_steps_cancel :
    (∀ c ∈ steps.flatMap (·.asks .cancel), c.holds change = true) ↔
      (∀ f v, Leaves steps f v → f.Is .new v change) ∧
      ∀ f v, Reaches steps f v → f.Is .old v change := by
  constructor
  · intro all
    exact ⟨fun f v leaves => all _ (mem_cancel_iff.2 (.inl ⟨f, v, leaves, rfl⟩)),
      fun f v reaches => all _ (mem_cancel_iff.2 (.inr ⟨f, v, reaches, rfl⟩))⟩
  · rintro ⟨new, old⟩ c mem
    rcases mem_cancel_iff.1 mem with ⟨f, v, leaves, rfl⟩ | ⟨f, v, reaches, rfl⟩
    · exact new f v leaves
    · exact old f v reaches

/-- The condition of a subject picks what the subject is about. -/
theorem holds_subject (isNamed : subject.IsNamed) :
    (∀ c ∈ subject.condition?.toList, c.holds change = true) ↔ subject.Picks change := by
  cases subject with
  | everything => simp [Subject.condition?, Condition.holds, Subject.Picks]
  | custom name predicate => simp [Subject.condition?, Condition.holds, Subject.Picks]
  | entity text =>
    obtain ⟨id, parsed⟩ := isNamed
    simp only [Subject.condition?_entity parsed, Option.toList_some, List.forall_mem_singleton,
      Subject.Picks, parsed, Except.ok.injEq]
    exact beq_iff_eq.trans eq_comm

/-- Where something can cancel, the scope is what the subject is about. -/
theorem holds_scope (isNamed : subject.IsNamed) (w : WellFormed subject steps)
    (bound : ∃ f v, Leaves steps f v ∨ Reaches steps f v) :
    (∀ c ∈ conditions subject steps .scope, c.holds change = true) ↔ subject.Picks change := by
  rw [conditions, asks_scope, List.append_nil]
  cases subject with
  | everything => simp [Subject.asks, Subject.Picks]
  | entity text => exact holds_subject isNamed
  | custom name predicate =>
    obtain rfl : steps = [] := w
    simp [Leaves, Reaches] at bound

/-- A chain can be cancelled if it names a value to leave or to reach. -/
theorem cancel_ne_nil :
    conditions subject steps .cancel ≠ [] ↔ ∃ f v, Leaves steps f v ∨ Reaches steps f v := by
  have isSteps : conditions subject steps .cancel = steps.flatMap (·.asks .cancel) := rfl
  rw [isSteps]
  constructor
  · intro ne
    obtain ⟨c, mem⟩ := List.exists_mem_of_ne_nil _ ne
    rcases mem_cancel_iff.1 mem with ⟨f, v, leaves, -⟩ | ⟨f, v, reaches, -⟩
    · exact ⟨f, v, .inl leaves⟩
    · exact ⟨f, v, .inr reaches⟩
  · rintro ⟨f, v, leaves | reaches⟩
    · exact List.ne_nil_of_mem (mem_cancel_iff.2 (.inl ⟨f, v, leaves, rfl⟩))
    · exact List.ne_nil_of_mem (mem_cancel_iff.2 (.inr ⟨f, v, reaches, rfl⟩))

end

/-- The hash tells the conditions of each group apart. -/
def Apart (subject : Subject) (steps : List Step) : Prop :=
  ∀ g, Digest.TellsApart ((conditions subject steps g).map Condition.fingerprint)

/-- The rules of a group ask what its conditions ask, as none of them got lost. -/
theorem holds_group {d : Draft} (compiled : Draft.compile subject steps = .ok d)
    (apart : Apart subject steps) (g : RuleGroup) (change : StateChange) :
    (∀ r ∈ d.rules.group g, r.holds change = true) ↔
      ∀ c ∈ conditions subject steps g, c.holds change = true := by
  obtain ⟨-, formed, -⟩ := (Draft.compile_ok_iff subject steps).1 ⟨d, compiled⟩
  rw [group_compile compiled]
  refine RuleSet.holds_insertAll change fun a ha b hb same => ?_
  have fingerprints : a.fingerprint = b.fingerprint :=
    apart g _ (List.mem_map_of_mem ha) _ (List.mem_map_of_mem hb) same
  exact eq_of_fingerprint formed ha hb fingerprints

/-- What the rules of a draft mean: what the chain says. -/
structure Means (subject : Subject) (steps : List Step) (d : Draft) : Prop where
  calls : ∀ change, d.rules.allCall change = true ↔
    subject.Picks change ∧ (∀ f, Names steps f → f.Differs change) ∧
      (∀ f v, Leaves steps f v → f.Is .old v change) ∧
      ∀ f v, Reaches steps f v → f.Is .new v change
  cancels : ∀ change, d.rules.allCancel change = true ↔
    (∃ f v, Leaves steps f v ∨ Reaches steps f v) ∧ subject.Picks change ∧
      (∀ f v, Leaves steps f v → f.Is .new v change) ∧
      ∀ f v, Reaches steps f v → f.Is .old v change

/-- What is compiled means what was said. -/
theorem means_of_compile {d : Draft} (compiled : Draft.compile subject steps = .ok d)
    (apart : Apart subject steps) : Means subject steps d := by
  obtain ⟨isNamed, formed, -⟩ := (Draft.compile_ok_iff subject steps).1 ⟨d, compiled⟩
  constructor
  · intro change
    rw [RuleSet.allCall_eq_true]
    refine (holds_group compiled apart .call change).trans ?_
    rw [conditions, List.forall_mem_append, holds_steps_call]
    exact and_congr_left' (holds_subject isNamed)
  · intro change
    rw [RuleSet.allCancel_eq_true]
    have isGroup : d.rules.cancel = RuleSet.insertAll [] (conditions subject steps .cancel) :=
      group_compile compiled .cancel
    have bound : d.rules.cancel ≠ [] ↔ ∃ f v, Leaves steps f v ∨ Reaches steps f v := by
      rw [isGroup, ne_eq, RuleSet.insertAll_eq_nil]
      exact cancel_ne_nil
    rw [bound]
    refine and_congr_right fun isBound => and_congr ?_ ?_
    · exact (holds_group compiled apart .scope change).trans (holds_scope isNamed formed isBound)
    · exact (holds_group compiled apart .cancel change).trans holds_steps_cancel

/-! ### Windows -/

/-- The chain gives no window. -/
def NoWindow (steps : List Step) : Prop := ∀ amount unit, .lasts amount unit ∉ steps

/-- A chain begins without a window. -/
theorem timeout_start {d : Draft} (h : Draft.start subject = .ok d) : d.timeout = 0 := by
  cases subject with
  | everything | custom =>
    cases h
    rfl
  | entity text =>
    obtain ⟨id, -, rfl⟩ := Draft.start_entity_eq_ok.1 h
    rfl

/-- Steps that are no windows leave the window as it is. -/
theorem timeout_applyAll {d d' : Draft} {number : Nat} (no : NoWindow steps)
    (h : d.applyAll number steps = .ok d') : d'.timeout = d.timeout := by
  induction steps generalizing d number with
  | nil =>
    cases h
    rfl
  | cons s rest ih =>
    obtain ⟨next, applied, later⟩ := Draft.applyAll_cons.1 h
    obtain ⟨stage, timeout, -, window, rfl⟩ := Draft.apply_eq_ok.1 applied
    have kept : timeout = d.timeout := by
      cases s with
      | lasts amount unit => exact absurd List.mem_cons_self (no amount unit)
      | _ =>
        cases window
        rfl
    rw [ih (fun amount unit mem => no amount unit (List.mem_cons_of_mem _ mem)) later]
    exact kept

/-- The last window of a chain counts. -/
theorem timeout_applyAll_lasts {d d' : Draft} {number amount : Nat} {unit : String}
    {before after : List Step} (no : NoWindow after)
    (h : d.applyAll number (before ++ .lasts amount unit :: after) = .ok d') :
    ∃ u, TimeUnit.ofName? unit = some u ∧ d'.timeout = u.milliseconds amount := by
  induction before generalizing d number with
  | nil =>
    obtain ⟨next, applied, later⟩ := Draft.applyAll_cons.1 h
    obtain ⟨stage, timeout, -, window, rfl⟩ := Draft.apply_eq_ok.1 applied
    rw [timeout_applyAll no later]
    unfold Draft.timeoutAfter at window
    cases named : TimeUnit.ofName? unit with
    | none => simp [named] at window
    | some u =>
      simp only [named, Except.ok.injEq] at window
      exact ⟨u, rfl, window.symm⟩
  | cons s rest ih =>
    obtain ⟨next, -, later⟩ := Draft.applyAll_cons.1 h
    exact ih later

/-! ### Compilation -/

/-- What the compilation of a chain comes to. -/
structure Compiles (subject : Subject) (steps : List Step) : Prop where
  /-- The chains of the grammar make triggers, and no others. -/
  accepted : (∃ d, Draft.compile subject steps = .ok d) ↔
    subject.IsNamed ∧ WellFormed subject steps ∧ UnitsNamed steps
  meaning : ∀ d, Draft.compile subject steps = .ok d → Apart subject steps → Means subject steps d
  /-- Without a window the call is made at once. -/
  no_window : ∀ d, Draft.compile subject steps = .ok d → NoWindow steps → d.timeout = 0
  /-- The last window counts, up to 64 bits of milliseconds. -/
  window : ∀ d, Draft.compile subject steps = .ok d → ∀ before amount unit after,
    steps = before ++ .lasts amount unit :: after → NoWindow after →
      ∃ u, TimeUnit.ofName? unit = some u ∧ d.timeout = min (amount * u.factor) (UInt64.size - 1)

/-- Every chain is compiled to its meaning. -/
theorem compiles (subject : Subject) (steps : List Step) : Compiles subject steps where
  accepted := Draft.compile_ok_iff subject steps
  meaning := fun _ => means_of_compile
  no_window := by
    intro d compiled no
    obtain ⟨first, started, applied⟩ := Draft.compile_eq_ok.1 compiled
    rw [timeout_applyAll no applied, timeout_start started]
  window := by
    rintro d compiled before amount unit after rfl no
    obtain ⟨first, -, applied⟩ := Draft.compile_eq_ok.1 compiled
    exact timeout_applyAll_lasts no applied

/-- The steps for a lamp that has been off for some time. -/
def hasBeenOff : List Step := [.reaches .state (.string "off"), .lasts 5 "s", .lasts 300 "ms"]

/-- An example that compiles. -/
theorem hasBeenOff_compile : ∃ d, Draft.compile (.entity "light.lamp") hasBeenOff = .ok d := by
  have formed : WellFormed (.entity "light.lamp") hasBeenOff := by
    refine ⟨[.reaches .state (.string "off")], _, rfl, .spelled .nothing (.reaches _ _), ?_⟩
    exact (windows_nil.cons 300 "ms").cons 5 "s"
  have named : UnitsNamed hasBeenOff := by
    intro amount unit mem
    simp only [hasBeenOff, List.mem_cons, reduceCtorEq, Step.lasts.injEq, List.not_mem_nil,
      false_or, or_false] at mem
    rcases mem with ⟨-, rfl⟩ | ⟨-, rfl⟩ <;> exact ⟨_, rfl⟩
  exact (Draft.compile_ok_iff _ _).2
    ⟨⟨⟨"light", "lamp", by decide, by decide⟩, by rfl⟩, formed, named⟩

/-- The fingerprints of the example have digests of their own. -/
theorem hasBeenOff_apart : Apart (.entity "light.lamp") hasBeenOff := by
  intro g
  cases g <;> exact Digest.tellsApart_of_nodup (by decide +kernel)

theorem compiles_hasBeenOff :
    ∃ d, Draft.compile (.entity "light.lamp") hasBeenOff = .ok d ∧
      Means (.entity "light.lamp") hasBeenOff d ∧ d.timeout = 300 := by
  obtain ⟨d, compiled⟩ := hasBeenOff_compile
  have c := compiles (.entity "light.lamp") hasBeenOff
  obtain ⟨u, isUnit, timeout⟩ := c.window d compiled
    [.reaches .state (.string "off"), .lasts 5 "s"] 300 "ms" [] rfl nofun
  cases isUnit
  exact ⟨d, compiled, c.meaning d compiled hasBeenOff_apart, timeout⟩

end Chain

end HubAutomation
