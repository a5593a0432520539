import HubAutomation.Trigger.Chain

/-!
# Which chains make a trigger

The stages of a trigger in the making are the states of an automaton. What it
reads is a short grammar: first that something changes, then from which value
and to which, in either order, and last for how long.

- `Chain.Body`, `Chain.WellFormed`: the grammar.
- `Stage.after?`: the stage after some steps.
- `Stage.body_of_start`: what the automaton reads.
- `Draft.compile_ok_iff`: a chain makes a trigger exactly if it is in the
  grammar and its names are known.
-/

namespace HubAutomation

/-! ### The grammar -/

namespace Chain

/-- That something changes may be said first. -/
inductive Opening : List Step → Prop where
  | nothing : Opening []
  | changes : Opening [.changes]
  | changesOf (field : Field) : Opening [.changesOf field]

/-- From which value and to which, in either order. -/
inductive Bounds : List Step → Prop where
  | nothing : Bounds []
  | leaves (field : Field) (value : Json) : Bounds [.leaves field value]
  | reaches (field : Field) (value : Json) : Bounds [.reaches field value]
  | leavesReaches (old : Field) (before : Json) (new : Field) (after : Json) :
    Bounds [.leaves old before, .reaches new after]
  | reachesLeaves (new : Field) (after : Json) (old : Field) (before : Json) :
    Bounds [.reaches new after, .leaves old before]

/-- All but the windows. A step that says what the state turns to stands for
opening and bound. -/
inductive Body : List Step → Prop where
  | spelled {opening bounds : List Step} (o : Opening opening) (b : Bounds bounds) :
    Body (opening ++ bounds)
  | turns (value : Json) : Body [.turns value]
  | turnsLeaves (value : Json) (old : Field) (before : Json) :
    Body [.turns value, .leaves old before]

/-- Nothing but windows. -/
def Windows (steps : List Step) : Prop := ∀ s ∈ steps, ∃ amount unit, s = .lasts amount unit

/-- The steps that may follow a subject; none may follow a predicate. -/
def WellFormed : Subject → List Step → Prop
  | .custom _ _, steps => steps = []
  | .entity _, steps | .everything, steps =>
    ∃ body windows, steps = body ++ windows ∧ Body body ∧ Windows windows

/-- The units of all windows have names. -/
def UnitsNamed (steps : List Step) : Prop :=
  ∀ amount unit, .lasts amount unit ∈ steps → ∃ u, TimeUnit.ofName? unit = some u

theorem windows_nil : Windows [] := by
  simp [Windows]

theorem Windows.cons {windows : List Step} (w : Windows windows) (amount : Nat) (unit : String) :
    Windows (.lasts amount unit :: windows) :=
  List.forall_mem_cons.2 ⟨⟨amount, unit, rfl⟩, w⟩

end Chain

/-- A subject that names an entity does so by a valid id. -/
def Subject.IsNamed : Subject → Prop
  | .entity text => ∃ id, EntityId.parse text = .ok id
  | .everything | .custom _ _ => True

/-! ### The automaton -/

namespace Stage

open Chain

variable {stage last : Stage} {steps : List Step}

/-- The stage after some steps, if all are possible. -/
def after? : Stage → List Step → Option Stage
  | stage, [] => some stage
  | stage, s :: rest => (stage.next? s).bind (after? · rest)

theorem after?_cons (stage : Stage) (s : Step) (rest : List Step) :
    stage.after? (s :: rest) = (stage.next? s).bind (after? · rest) := rfl

/-- Steps can be followed in two parts. -/
theorem after?_append (stage : Stage) (steps more : List Step) :
    stage.after? (steps ++ more) = (stage.after? steps).bind (after? · more) := by
  induction steps generalizing stage with
  | nil => rfl
  | cons s rest ih =>
    rw [List.cons_append, after?_cons, after?_cons]
    cases stage.next? s with
    | none => rfl
    | some next => exact ih next

/-- Windows are possible at every stage but that of a predicate. -/
theorem after?_windows (ne : stage ≠ .custom) (w : Windows steps) :
    ∃ last, stage.after? steps = some last := by
  induction steps generalizing stage with
  | nil => exact ⟨stage, rfl⟩
  | cons s rest ih =>
    obtain ⟨⟨amount, unit, rfl⟩, later⟩ := List.forall_mem_cons.1 w
    have isTimed : stage.next? (.lasts amount unit) = some .timed := by
      cases stage <;> first | rfl | exact absurd rfl ne
    rw [after?_cons, isTimed]
    exact ih (by decide) later

theorem after?_body {body : List Step} (b : Body body) :
    ∃ stage, Stage.start.after? body = some stage ∧ stage ≠ .custom := by
  cases b with
  | spelled o b => cases o <;> cases b <;> exact ⟨_, rfl, by decide⟩
  | turns => exact ⟨_, rfl, by decide⟩
  | turnsLeaves => exact ⟨_, rfl, by decide⟩

/-! What is read from each stage on, the last stages first. -/

theorem windows_of_timed (h : Stage.timed.after? steps = some last) : Windows steps := by
  induction steps with
  | nil => exact windows_nil
  | cons s rest ih =>
    cases s with
    | lasts amount unit => exact (ih h).cons amount unit
    | _ => cases h

theorem windows_of_fromTo (h : Stage.fromTo.after? steps = some last) : Windows steps := by
  cases steps with
  | nil => exact windows_nil
  | cons s rest =>
    cases s with
    | lasts amount unit => exact (windows_of_timed h).cons amount unit
    | _ => cases h

theorem reaches_of_from (h : Stage.from.after? steps = some last) :
    Windows steps ∨
      ∃ new after windows, steps = .reaches new after :: windows ∧ Windows windows := by
  cases steps with
  | nil => exact .inl windows_nil
  | cons s rest =>
    cases s with
    | lasts amount unit => exact .inl ((windows_of_timed h).cons amount unit)
    | reaches new after => exact .inr ⟨new, after, rest, rfl, windows_of_fromTo h⟩
    | _ => cases h

theorem leaves_of_to (h : Stage.to.after? steps = some last) :
    Windows steps ∨
      ∃ old before windows, steps = .leaves old before :: windows ∧ Windows windows := by
  cases steps with
  | nil => exact .inl windows_nil
  | cons s rest =>
    cases s with
    | lasts amount unit => exact .inl ((windows_of_timed h).cons amount unit)
    | leaves old before => exact .inr ⟨old, before, rest, rfl, windows_of_fromTo h⟩
    | _ => cases h

/-- After a change there may be bounds, and then windows. -/
theorem bounds_of_changed (h : Stage.changed.after? steps = some last) :
    ∃ bounds windows, steps = bounds ++ windows ∧ Bounds bounds ∧ Windows windows := by
  cases steps with
  | nil => exact ⟨[], [], rfl, .nothing, windows_nil⟩
  | cons s rest =>
    cases s with
    | lasts amount unit => exact ⟨[], _, rfl, .nothing, (windows_of_timed h).cons amount unit⟩
    | leaves old before =>
      rcases reaches_of_from h with w | ⟨new, after, windows, rfl, w⟩
      · exact ⟨[_], rest, rfl, .leaves old before, w⟩
      · exact ⟨[_, _], windows, rfl, .leavesReaches old before new after, w⟩
    | reaches new after =>
      rcases leaves_of_to h with w | ⟨old, before, windows, rfl, w⟩
      · exact ⟨[_], rest, rfl, .reaches new after, w⟩
      · exact ⟨[_, _], windows, rfl, .reachesLeaves new after old before, w⟩
    | _ => cases h

/-- From the start there may be a body, and then windows. -/
theorem body_of_start (h : Stage.start.after? steps = some last) :
    ∃ body windows, steps = body ++ windows ∧ Body body ∧ Windows windows := by
  -- Where nothing has been said yet, all is possible that is possible after an opening.
  have unopened (h : Stage.changed.after? steps = some last) :
      ∃ body windows, steps = body ++ windows ∧ Body body ∧ Windows windows := by
    obtain ⟨bounds, windows, e, b, w⟩ := bounds_of_changed h
    exact ⟨bounds, windows, e, .spelled .nothing b, w⟩
  cases steps with
  | nil => exact ⟨[], [], rfl, .spelled .nothing .nothing, windows_nil⟩
  | cons s rest =>
    cases s with
    | changes =>
      obtain ⟨bounds, windows, rfl, b, w⟩ := bounds_of_changed h
      exact ⟨_, windows, rfl, .spelled .changes b, w⟩
    | changesOf field =>
      obtain ⟨bounds, windows, rfl, b, w⟩ := bounds_of_changed h
      exact ⟨_, windows, rfl, .spelled (.changesOf field) b, w⟩
    | turns value =>
      rcases leaves_of_to h with w | ⟨old, before, windows, rfl, w⟩
      · exact ⟨[_], rest, rfl, .turns value, w⟩
      · exact ⟨[_, _], windows, rfl, .turnsLeaves value old before, w⟩
    | leaves | reaches | lasts => exact unopened h
    | other => cases h

/-- The automaton reads the grammar. -/
theorem start_reads_iff :
    (∃ last, Stage.start.after? steps = some last) ↔
      ∃ body windows, steps = body ++ windows ∧ Body body ∧ Windows windows := by
  constructor
  · rintro ⟨last, reads⟩
    exact body_of_start reads
  · rintro ⟨body, windows, rfl, b, w⟩
    obtain ⟨stage, reads, ne⟩ := after?_body b
    rw [after?_append, reads]
    exact after?_windows ne w

theorem nil_of_custom (h : Stage.custom.after? steps = some last) : steps = [] := by
  cases steps with
  | nil => rfl
  | cons s rest => cases s <;> cases h

end Stage

/-! ### Drafts -/

namespace Draft

open Chain

theorem timeoutAfter_ok_iff {timeout : Nat} {s : Step} :
    (∃ t, timeoutAfter timeout s = .ok t) ↔ UnitsNamed [s] := by
  unfold timeoutAfter UnitsNamed
  cases s with
  | lasts amount unit =>
    cases named : TimeUnit.ofName? unit <;> simp [named]
  | _ => simp

/-- A step is applied if the stage allows it and its unit is known. -/
theorem apply_eq_ok {d d' : Draft} {number : Nat} {s : Step} :
    d.apply number s = .ok d' ↔ ∃ stage timeout, d.stage.next? s = some stage ∧
      timeoutAfter d.timeout s = .ok timeout ∧ d' = ⟨addStep d.rules s, timeout, stage⟩ := by
  unfold apply
  cases d.stage.next? s with
  | none => simp
  | some stage => cases timeoutAfter d.timeout s <;> simp [eq_comm]

theorem applyAll_cons {d d' : Draft} {number : Nat} {s : Step} {rest : List Step} :
    d.applyAll number (s :: rest) = .ok d' ↔
      ∃ next, d.apply number s = .ok next ∧ next.applyAll (number + 1) rest = .ok d' := by
  rw [applyAll]
  cases d.apply number s <;> simp

/-- Steps are applied if the automaton goes through them and all units are known. -/
theorem applyAll_ok_iff (d : Draft) (number : Nat) (steps : List Step) :
    (∃ d', d.applyAll number steps = .ok d') ↔
      (∃ last, d.stage.after? steps = some last) ∧ UnitsNamed steps := by
  induction steps generalizing d number with
  | nil => simp [applyAll, Stage.after?, UnitsNamed]
  | cons s rest ih =>
    have units : UnitsNamed (s :: rest) ↔ UnitsNamed [s] ∧ UnitsNamed rest := by
      simp [UnitsNamed, or_imp, forall_and]
    rw [units, Stage.after?_cons]
    simp only [applyAll_cons, apply_eq_ok]
    constructor
    · rintro ⟨d', next, ⟨stage, timeout, isNext, window, rfl⟩, applied⟩
      obtain ⟨reads, named⟩ := (ih _ _).1 ⟨d', applied⟩
      rw [isNext]
      exact ⟨reads, timeoutAfter_ok_iff.1 ⟨timeout, window⟩, named⟩
    · rintro ⟨⟨last, reads⟩, own, named⟩
      obtain ⟨stage, isNext, reads⟩ := Option.bind_eq_some_iff.1 reads
      obtain ⟨timeout, window⟩ := timeoutAfter_ok_iff.2 own
      have later := ih ⟨addStep d.rules s, timeout, stage⟩ (number + 1)
      obtain ⟨d', applied⟩ := later.2 ⟨⟨last, reads⟩, named⟩
      exact ⟨d', _, ⟨stage, timeout, isNext, window, rfl⟩, applied⟩

/-- The draft of an entity has the filter on it and nothing else. -/
theorem start_entity_eq_ok {text : String} {d : Draft} :
    start (.entity text) = .ok d ↔ ∃ id, EntityId.parse text = .ok id ∧
      d = ⟨(RuleSet.empty.addCondition .call (.entity id)).addCondition .scope (.entity id),
        0, .start⟩ := by
  rw [start]
  cases EntityId.parse text <;> simp [eq_comm]

/-- A chain begins if its subject has a proper name. -/
theorem start_ok_iff (subject : Subject) :
    (∃ d, start subject = .ok d) ↔ subject.IsNamed := by
  cases subject with
  | everything | custom => exact ⟨fun _ => trivial, fun _ => ⟨_, rfl⟩⟩
  | entity text =>
    constructor
    · rintro ⟨d, started⟩
      obtain ⟨id, parsed, -⟩ := start_entity_eq_ok.1 started
      exact ⟨id, parsed⟩
    · rintro ⟨id, parsed⟩
      exact ⟨_, start_entity_eq_ok.2 ⟨id, parsed, rfl⟩⟩

/-- What is read after a subject. -/
theorem reads_iff_wellFormed {subject : Subject} {d : Draft} (h : start subject = .ok d)
    (steps : List Step) :
    (∃ last, d.stage.after? steps = some last) ↔ WellFormed subject steps := by
  cases subject with
  | everything =>
    cases h
    exact Stage.start_reads_iff
  | entity text =>
    obtain ⟨id, -, rfl⟩ := start_entity_eq_ok.1 h
    exact Stage.start_reads_iff
  | custom name predicate =>
    cases h
    constructor
    · rintro ⟨last, reads⟩
      exact Stage.nil_of_custom reads
    · rintro rfl
      exact ⟨.custom, rfl⟩

theorem compile_eq_ok {subject : Subject} {steps : List Step} {d : Draft} :
    compile subject steps = .ok d ↔
      ∃ first, start subject = .ok first ∧ first.applyAll 0 steps = .ok d := by
  unfold compile
  cases start subject <;> simp

/-- A chain makes a trigger exactly if its subject and its units have names and
its steps are in the grammar. -/
theorem compile_ok_iff (subject : Subject) (steps : List Step) :
    (∃ d, compile subject steps = .ok d) ↔
      subject.IsNamed ∧ WellFormed subject steps ∧ UnitsNamed steps := by
  constructor
  · rintro ⟨d, compiled⟩
    obtain ⟨first, started, applied⟩ := compile_eq_ok.1 compiled
    obtain ⟨reads, named⟩ := (applyAll_ok_iff first 0 steps).1 ⟨d, applied⟩
    exact ⟨(start_ok_iff subject).1 ⟨first, started⟩,
      (reads_iff_wellFormed started steps).1 reads, named⟩
  · rintro ⟨isNamed, formed, named⟩
    obtain ⟨first, started⟩ := (start_ok_iff subject).2 isNamed
    obtain ⟨d, applied⟩ := (applyAll_ok_iff first 0 steps).2
      ⟨(reads_iff_wellFormed started steps).2 formed, named⟩
    exact ⟨d, compile_eq_ok.2 ⟨first, started, applied⟩⟩

end Draft

end HubAutomation
