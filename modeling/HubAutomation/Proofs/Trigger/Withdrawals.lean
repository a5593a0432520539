import HubAutomation.Proofs.Trigger.WaitingCalls

/-!
# What withdraws a call

While a call waits, the values on one side of an event decide whether it is
given up: a value that was to be reached is looked for on the old side, one that
was to be left on the new side, and all of them together. So a field that stays
at the value it reached gives up the call as one that leaves it does, and where
a chain names both values, only the way back to the first gives up the call.

- `Chain.OnlyReaches`: a chain that names one value, to be reached.
- `Watch.given_up_iff_had`: its call is given up by the value on the old side.
- `Watch.given_up_iff_back`: with both values, by the move from the second to
  the first.
-/

namespace HubAutomation

namespace Field

variable {f : Field} {side : Side} {v : Json} {change : StateChange}

instance : Decidable (f.Is side v change) :=
  inferInstanceAs (Decidable (sameValue (f.read? side change) (some v) = true))

/-- The field had the value and has it no longer. -/
def Left (f : Field) (v : Json) (change : StateChange) : Prop :=
  f.Is .old v change ∧ ¬ f.Is .new v change

/-- The field had the value and still has it. -/
def Stayed (f : Field) (v : Json) (change : StateChange) : Prop :=
  f.Is .old v change ∧ f.Is .new v change

instance : Decidable (f.Left v change) :=
  inferInstanceAs (Decidable (f.Is .old v change ∧ ¬ f.Is .new v change))

instance : Decidable (f.Stayed v change) :=
  inferInstanceAs (Decidable (f.Is .old v change ∧ f.Is .new v change))

/-- A state is left or kept if it had the value before. -/
theorem is_old_iff :
    f.Is .old v change ↔ f.Left v change ∨ f.Stayed v change := by
  constructor
  · intro had
    by_cases has : f.Is .new v change
    · exact .inr ⟨had, has⟩
    · exact .inl ⟨had, has⟩
  · rintro (left | stayed)
    · exact left.1
    · exact stayed.1

end Field

namespace Chain

variable {text : String} {id : EntityId} {steps : List Step} {d : Draft} {change : StateChange}
  {f : Field} {a b v : Json}

/-- The chain says of one value that it is reached, and of none that it is
left. -/
structure OnlyReaches (steps : List Step) (f : Field) (v : Json) : Prop where
  reaches : Reaches steps f v
  leaves_none : ∀ f' v', ¬ Leaves steps f' v'

theorem picks_entity (named : EntityId.parse text = .ok id) :
    (Subject.entity text).Picks change ↔ change.entityId = id := by
  rw [Subject.Picks, named, Except.ok.injEq, eq_comm]

/-- A chain with one value to reach is withdrawn when the value is left, or stays. -/
theorem OnlyReaches.withdraws_iff (only : OnlyReaches steps f v)
    (formed : WellFormed (.entity text) steps) (named : EntityId.parse text = .ok id) :
    Withdraws (.entity text) steps change ↔
      change.entityId = id ∧ (f.Left v change ∨ f.Stayed v change) := by
  rw [← Field.is_old_iff]
  constructor
  · rintro ⟨-, picks, -, had⟩
    exact ⟨(picks_entity named).1 picks, had f v only.reaches⟩
  · rintro ⟨about, had⟩
    refine ⟨⟨f, v, .inr only.reaches⟩, (picks_entity named).2 about, ?_, ?_⟩
    · intro f' v' leaves
      exact absurd leaves (only.leaves_none f' v')
    · intro f' v' reaches
      obtain ⟨rfl, rfl⟩ := formed.reaches_unique only.reaches reaches
      exact had

/-- A chain with both is withdrawn by the way back. -/
theorem withdraws_iff_of_both (leaves : Leaves steps f a) (reaches : Reaches steps f b)
    (formed : WellFormed (.entity text) steps) (named : EntityId.parse text = .ok id) :
    Withdraws (.entity text) steps change ↔
      change.entityId = id ∧ f.Is .old b change ∧ f.Is .new a change := by
  constructor
  · rintro ⟨-, picks, has, had⟩
    exact ⟨(picks_entity named).1 picks, had f b reaches, has f a leaves⟩
  · rintro ⟨about, had, has⟩
    refine ⟨⟨f, a, .inl leaves⟩, (picks_entity named).2 about, ?_, ?_⟩
    · intro f' v' leaves'
      obtain ⟨rfl, rfl⟩ := formed.leaves_unique leaves leaves'
      exact has
    · intro f' v' reaches'
      obtain ⟨rfl, rfl⟩ := formed.reaches_unique reaches reaches'
      exact had

/-- A chain that compiles is in the grammar. -/
theorem formed_of_compile (compiled : Draft.compile (.entity text) steps = .ok d) :
    WellFormed (.entity text) steps :=
  ((Draft.compile_ok_iff _ steps).1 ⟨d, compiled⟩).2.1

/-! ### A lamp -/

/-- Only the brightness is another one. -/
def lampStaysOff : Event StateChange := lampShows ("off", 9) ("off", 0)
def lampIsLost : Event StateChange := lampShows ("on", 9) ("unavailable", 9)

/-- The steps for a lamp that was switched on some time ago. -/
def wasSwitchedOn : List Step :=
  [.leaves .state (.string "off"), .reaches .state (.string "on"), .lasts 5 "s"]

theorem wasSwitchedOn_compile :
    ∃ d, Draft.compile (.entity "light.lamp") wasSwitchedOn = .ok d := by
  have formed : WellFormed (.entity "light.lamp") wasSwitchedOn :=
    ⟨[.leaves .state (.string "off"), .reaches .state (.string "on")], _, rfl,
      .spelled .nothing (.leavesReaches _ _ _ _), windows_nil.cons 5 "s"⟩
  have named : UnitsNamed wasSwitchedOn := by
    intro amount unit mem
    obtain ⟨rfl, rfl⟩ : amount = 5 ∧ unit = "s" := by simpa [wasSwitchedOn] using mem
    exact ⟨.second, rfl⟩
  exact (Draft.compile_ok_iff (.entity "light.lamp") wasSwitchedOn).2
    ⟨⟨lamp, by rfl⟩, formed, named⟩

theorem wasSwitchedOn_timeout
    (compiled : Draft.compile (.entity "light.lamp") wasSwitchedOn = .ok d) : d.timeout = 5000 :=
  timeout_of_lasts [.leaves .state (.string "off"), .reaches .state (.string "on")] compiled
    (rfl : TimeUnit.ofName? "s" = some .second)

theorem wasSwitchedOn_pos
    (compiled : Draft.compile (.entity "light.lamp") wasSwitchedOn = .ok d) : 0 < d.timeout := by
  rw [wasSwitchedOn_timeout compiled]
  decide

theorem wasSwitchedOn_leaves : Leaves wasSwitchedOn .state (.string "off") := .head _

theorem wasSwitchedOn_reaches : Reaches wasSwitchedOn .state (.string "on") :=
  .inl (.tail _ (.head _))

theorem hasBeenOff_onlyReaches : OnlyReaches hasBeenOff .state (.string "off") where
  reaches := .inl (by simp [hasBeenOff])
  leaves_none := by simp [Leaves, hasBeenOff]

/-- Both steps ask that the state changes. -/
theorem wasSwitchedOn_apart : Apart (.entity "light.lamp") wasSwitchedOn := by
  intro g
  cases g <;> exact Digest.tellsApart_of_dedup (by decide +kernel)

theorem wasSwitchedOn_arms : Arms (.entity "light.lamp") wasSwitchedOn lampGoesOn.data :=
  ⟨by rfl, holds_steps_call.1 (by decide)⟩

end Chain

namespace Watch

open Chain (Arms Withdraws Leaves Reaches OnlyReaches Apart Means lamp hasBeenOff
  hasBeenOff_compile hasBeenOff_timeout hasBeenOff_pos hasBeenOff_apart hasBeenOff_arms
  hasBeenOff_onlyReaches wasSwitchedOn wasSwitchedOn_compile wasSwitchedOn_timeout
  wasSwitchedOn_pos wasSwitchedOn_leaves wasSwitchedOn_reaches wasSwitchedOn_apart
  wasSwitchedOn_arms
  lampGoesOff lampGoesOn lampStaysOff lampIsLost)

variable {text : String} {id : EntityId} {steps : List Step} {d : Draft} {f : Field}
  {a b v : Json}

/-- The call of a trigger that waits for a field to reach a value is given up
exactly by the events of the entity whose old snapshot has the value, whether
the field leaves the value or stays at it. -/
theorem given_up_iff_had (compiled : Draft.compile (.entity text) steps = .ok d)
    (named : EntityId.parse text = .ok id) (apart : Apart (.entity text) steps)
    (only : OnlyReaches steps f v) (pos : 0 < d.timeout) (callback : Callback) :
    GivenUpBy (.entity text) steps d callback fun change =>
      change.entityId = id ∧ (f.Left v change ∨ f.Stayed v change) := by
  have means := Chain.means_of_compile compiled apart
  refine givenUpBy means pos callback fun change => ?_
  exact only.withdraws_iff (Chain.formed_of_compile compiled) named

/-- A lamp has gone off and comes on again. -/
theorem given_up_iff_had_lamp :
    ∃ d, Draft.compile (.entity "light.lamp") hasBeenOff = .ok d ∧
      Apart (.entity "light.lamp") hasBeenOff ∧
      OnlyReaches hasBeenOff .state (.string "off") ∧ 0 < d.timeout ∧
      let w := (ofHandler (.ofDraft d (.script (.plain "s")))).actAll [.event lampGoesOff]
      w.calls.waiting = some (300, lampGoesOff) ∧
        (w.act (.event lampGoesOn)).calls.waiting = none := by
  obtain ⟨d, compiled⟩ := hasBeenOff_compile
  have pos := hasBeenOff_pos compiled
  have means := Chain.means_of_compile compiled hasBeenOff_apart
  have waits := waiting_first means pos (.script (.plain "s")) hasBeenOff_arms
  rw [hasBeenOff_timeout compiled] at waits
  have law := given_up_iff_had compiled (by rfl) hasBeenOff_apart hasBeenOff_onlyReaches pos
    (.script (.plain "s"))
  exact ⟨d, compiled, hasBeenOff_apart, hasBeenOff_onlyReaches, pos, waits,
    (law.given_up [.event lampGoesOff] 300 lampGoesOff lampGoesOn waits).2 (by decide)⟩

/-- A lamp has gone off and stays off, and only its brightness is reported
anew: the call is given up and never made. -/
theorem given_up_by_staying :
    ∃ d, Draft.compile (.entity "light.lamp") hasBeenOff = .ok d ∧
      let w := ofHandler (.ofDraft d (.script (.plain "s")))
      lampStaysOff.data.entityId = lamp ∧
        Field.state.Stayed (.string "off") lampStaysOff.data ∧
        (w.actAll [.event lampGoesOff]).calls.waiting = some (300, lampGoesOff) ∧
        (w.actAll [.event lampGoesOff, .event lampStaysOff]).calls.waiting = none ∧
        (w.actAll [.event lampGoesOff, .event lampStaysOff, .advance 300]).calls.begun = [] := by
  obtain ⟨d, compiled⟩ := hasBeenOff_compile
  have timeout_eq := hasBeenOff_timeout compiled
  have pos := hasBeenOff_pos compiled
  have means := Chain.means_of_compile compiled hasBeenOff_apart
  have stays : Field.state.Stayed (.string "off") lampStaysOff.data := by decide
  have withdraws := (hasBeenOff_onlyReaches.withdraws_iff (Chain.formed_of_compile compiled)
    (by rfl)).2 ⟨rfl, .inr stays⟩
  have first := calls_first means pos (.script (.plain "s")) hasBeenOff_arms
  have second : ((ofHandler (.ofDraft d (.script (.plain "s")))).actAll
      [.event lampGoesOff, .event lampStaysOff]).calls = _ :=
    (settles means pos (.script (.plain "s")) [.event lampGoesOff] lampStaysOff).withdrawn withdraws
  rw [first] at second
  have third : ((ofHandler (.ofDraft d (.script (.plain "s")))).actAll
      [.event lampGoesOff, .event lampStaysOff, .advance 300]).calls =
      ((ofHandler (.ofDraft d (.script (.plain "s")))).actAll
        [.event lampGoesOff, .event lampStaysOff]).calls.advance 300 := rfl
  refine ⟨d, compiled, rfl, stays, ?_, ?_, ?_⟩
  · rw [first, timeout_eq]
    rfl
  · rw [second, timeout_eq]
    rfl
  · rw [third, second, timeout_eq]
    rfl

/-- Where a chain names the value that a field leaves and the one that it
reaches, the call is given up exactly by the moves from the second value back to
the first. So of the events with which the field leaves the second value all
others leave the call that waits, and a delivered call does not mean that the
field still has it. -/
theorem given_up_iff_back (compiled : Draft.compile (.entity text) steps = .ok d)
    (named : EntityId.parse text = .ok id) (apart : Apart (.entity text) steps)
    (leaves : Leaves steps f a) (reaches : Reaches steps f b) (pos : 0 < d.timeout)
    (callback : Callback) :
    (GivenUpBy (.entity text) steps d callback fun change =>
      change.entityId = id ∧ f.Is .old b change ∧ f.Is .new a change) ∧
    ∀ acts due payload (e : Event StateChange),
      ((ofHandler (.ofDraft d callback)).actAll acts).calls.waiting = some (due, payload) →
      e.data.entityId = id → f.Left b e.data →
      ((((ofHandler (.ofDraft d callback)).actAll acts).act (.event e)).calls.waiting = none ↔
        f.Is .new a e.data) ∧
      (¬ f.Is .new a e.data →
        ((ofHandler (.ofDraft d callback)).actAll acts).act (.event e) =
          (ofHandler (.ofDraft d callback)).actAll acts) := by
  have means := Chain.means_of_compile compiled apart
  have isBack := givenUpBy means pos callback fun change =>
    Chain.withdraws_iff_of_both leaves reaches (Chain.formed_of_compile compiled) named
  refine ⟨isBack, ?_⟩
  intro acts due payload e waits about left
  have back : (e.data.entityId = id ∧ f.Is .old b e.data ∧ f.Is .new a e.data) ↔
      f.Is .new a e.data := by
    rw [and_iff_right about, and_iff_right left.1]
  refine ⟨(isBack.given_up acts due payload e waits).trans back, fun elsewhere => ?_⟩
  -- a field that leaves a value does not reach it, so no call takes the place either
  have not_arms : ¬ Arms (.entity text) steps e.data := by
    rintro ⟨-, -, -, has⟩
    exact left.2 (has f b reaches)
  exact isBack.kept acts e not_arms (elsewhere ∘ back.1)

/-- A lamp was switched on and goes off again, or is lost. -/
theorem given_up_iff_back_lamp :
    ∃ d, Draft.compile (.entity "light.lamp") wasSwitchedOn = .ok d ∧
      Apart (.entity "light.lamp") wasSwitchedOn ∧
      Leaves wasSwitchedOn .state (.string "off") ∧ Reaches wasSwitchedOn .state (.string "on") ∧
      0 < d.timeout ∧
      let w := (ofHandler (.ofDraft d (.script (.plain "s")))).actAll [.event lampGoesOn]
      w.calls.waiting = some (5000, lampGoesOn) ∧
        (w.act (.event lampGoesOff)).calls.waiting = none ∧ w.act (.event lampIsLost) = w := by
  obtain ⟨d, compiled⟩ := wasSwitchedOn_compile
  have timeout_eq := wasSwitchedOn_timeout compiled
  have pos := wasSwitchedOn_pos compiled
  have means := Chain.means_of_compile compiled wasSwitchedOn_apart
  have waits := waiting_first means pos (.script (.plain "s")) wasSwitchedOn_arms
  rw [timeout_eq] at waits
  have law := (given_up_iff_back compiled (by rfl) wasSwitchedOn_apart wasSwitchedOn_leaves
    wasSwitchedOn_reaches pos (.script (.plain "s"))).2 [.event lampGoesOn] 5000 lampGoesOn
  exact ⟨d, compiled, wasSwitchedOn_apart, wasSwitchedOn_leaves, wasSwitchedOn_reaches, pos, waits,
    (law lampGoesOff waits rfl (by decide)).1.2 (by decide),
    (law lampIsLost waits rfl (by decide)).2 (by decide)⟩

/-- A lamp was switched on and is lost before the window ends: the call is not
given up, and it is made although the lamp has left its value. -/
theorem waits_through_third_value :
    ∃ d, Draft.compile (.entity "light.lamp") wasSwitchedOn = .ok d ∧
      let w := ofHandler (.ofDraft d (.script (.plain "s")))
      lampIsLost.data.entityId = lamp ∧ Field.state.Left (.string "on") lampIsLost.data ∧
        (w.actAll [.event lampGoesOn]).calls.waiting = some (5000, lampGoesOn) ∧
        (w.actAll [.event lampGoesOn, .event lampIsLost]).calls.waiting =
          some (5000, lampGoesOn) ∧
        (w.actAll [.event lampGoesOn, .event lampIsLost, .advance 5000]).calls.begun =
          [(5000, lampGoesOn)] := by
  obtain ⟨d, compiled⟩ := wasSwitchedOn_compile
  have timeout_eq := wasSwitchedOn_timeout compiled
  have pos := wasSwitchedOn_pos compiled
  have means := Chain.means_of_compile compiled wasSwitchedOn_apart
  have lost : Field.state.Left (.string "on") lampIsLost.data := by decide
  have not_arms : ¬ Arms (.entity "light.lamp") wasSwitchedOn lampIsLost.data := by
    rintro ⟨-, -, -, has⟩
    exact lost.2 (has _ _ wasSwitchedOn_reaches)
  have not_withdraws : ¬ Withdraws (.entity "light.lamp") wasSwitchedOn lampIsLost.data := by
    rintro ⟨-, -, has, -⟩
    exact absurd (has _ _ wasSwitchedOn_leaves) (by decide)
  have first := calls_first means pos (.script (.plain "s")) wasSwitchedOn_arms
  have second : (ofHandler (.ofDraft d (.script (.plain "s")))).actAll
      [.event lampGoesOn, .event lampIsLost] = _ :=
    (settles means pos (.script (.plain "s")) [.event lampGoesOn] lampIsLost).idle not_arms
      not_withdraws
  have third : ((ofHandler (.ofDraft d (.script (.plain "s")))).actAll
      [.event lampGoesOn, .event lampIsLost, .advance 5000]).calls =
      ((ofHandler (.ofDraft d (.script (.plain "s")))).actAll
        [.event lampGoesOn, .event lampIsLost]).calls.advance 5000 := rfl
  refine ⟨d, compiled, rfl, lost, ?_, ?_, ?_⟩
  · rw [first, timeout_eq]
    rfl
  · rw [second, first, timeout_eq]
    rfl
  · rw [third, second, first, timeout_eq]
    rfl

end Watch

end HubAutomation
