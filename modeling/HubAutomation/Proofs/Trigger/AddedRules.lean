import HubAutomation.Proofs.Trigger.RuleIdentity

/-!
# Rule sets and what was added to them

A rule set keeps digests, not histories: a rule whose digest stands in its group
is dropped. Where digests tell the parameters of the rules apart, nothing is lost
by that. A group is the list of what was added to it, each rule at its first
place, and the verdicts on an event are those of all rules that were ever added.

- `Condition.SameParameters`: the same kind with the same parameters.
- `Rule.ToldApart`: rules whose digests show their parameters.
- `RuleSet.addAll`: a rule set after some adds, and `RuleSet.addedTo`: what they
  added to one group.
- `RuleSet.keeps_first_occurrences`: the groups and verdicts in terms of the adds.
-/

namespace HubAutomation

/-! ### Parameters -/

namespace Condition

variable {a b : Condition}

/-- The same kind with the same parameters. A predicate of the user's has only
its name. Values are compared as documents, so the two zeros differ. -/
inductive SameParameters : Condition → Condition → Prop where
  | refl (c : Condition) : SameParameters c c
  | named (name : String) (p p' : StateChange → Bool) :
    SameParameters (.custom name p) (.custom name p')

theorem parts_compare (old new : Field) (c : Comparison) :
    (compare old c new).parts = ["compare", old.text, c.sign, new.text] := by
  cases c <;> rfl

/-- Conditions have the same parameters if their fingerprints have the same parts. -/
theorem sameParameters_iff : a.SameParameters b ↔ a.parts = b.parts := by
  constructor
  · rintro (_ | _) <;> rfl
  · intro h
    -- The kind is the first part, so only conditions of one kind are left.
    have kinds : a.kind = b.kind := by
      rw [a.parts_eq, b.parts_eq] at h
      exact (List.cons.inj h).1
    cases a with
    | always =>
      cases b with
      | always => exact .refl _
      | _ => simp [kind] at kinds
    | entity id =>
      cases b with
      | entity id' =>
        simp only [parts, List.cons.injEq, true_and, and_true] at h
        exact EntityId.text_injective h ▸ .refl _
      | _ => simp [kind] at kinds
    | equals side field value =>
      cases b with
      | equals side' field' value' =>
        simp only [parts, List.cons.injEq, true_and, and_true] at h
        obtain ⟨sides, fields, values⟩ := h
        have sides : side = side' := by
          cases side <;> cases side' <;> first | rfl | exact absurd sides (by decide)
        rw [sides, Field.text_injective fields, Json.text_injective values]
        exact .refl _
      | _ => simp [kind] at kinds
    | fieldChanged field =>
      cases b with
      | fieldChanged field' =>
        simp only [parts, List.cons.injEq, true_and, and_true] at h
        exact Field.text_injective h ▸ .refl _
      | _ => simp [kind] at kinds
    | compare old c new =>
      cases b with
      | compare old' c' new' =>
        simp only [parts_compare, List.cons.injEq, true_and, and_true] at h
        obtain ⟨olds, signs, news⟩ := h
        rw [Field.text_injective olds, Comparison.sign_injective signs, Field.text_injective news]
        exact .refl _
      | _ => simp [kind] at kinds
    | custom name p =>
      cases b with
      | custom name' p' =>
        simp only [parts, List.cons.injEq, true_and, and_true] at h
        exact h ▸ .named name p p'
      | _ => simp [kind] at kinds

instance : Decidable (a.SameParameters b) := decidable_of_iff _ sameParameters_iff.symm

/-- If the names of one condition have no zeros, its fingerprint shows its
parameters. -/
theorem fingerprint_eq_iff_sameParameters (free : b.ZeroFree) :
    a.fingerprint = b.fingerprint ↔ a.SameParameters b := by
  constructor
  · intro h
    obtain ⟨kinds, tails⟩ := kind_eq h
    cases a with
    | custom name p =>
      cases b with
      | custom name' p' =>
        -- A name may have zeros, but nothing stands behind it.
        have names : name = name' := last_part_eq tails
        exact names ▸ .named name p p'
      | _ => simp [kind] at kinds
    | _ =>
      cases b with
      | custom => simp [kind] at kinds
      | _ => exact eq_of_fingerprint rfl rfl free h ▸ .refl _
  · intro same
    unfold fingerprint
    rw [sameParameters_iff.1 same]

end Condition

namespace Rule

variable {rules : List Rule} {r r' : Rule}

/-- The same kind with the same parameters. -/
def SameParameters (r r' : Rule) : Prop := r.condition.SameParameters r'.condition

instance : Decidable (r.SameParameters r') :=
  inferInstanceAs (Decidable (r.condition.SameParameters r'.condition))

/-- The digests of the rules show their parameters, and the parameters what the
rules ask. -/
structure ToldApart (rules : List Rule) : Prop where
  /-- Predicates of the user's with the same name are the same. -/
  named : ∀ r ∈ rules, ∀ r' ∈ rules, ∀ name p p',
    r.condition = .custom name p → r'.condition = .custom name p' → p = p'
  /-- No comparison names an attribute with a zero in its name. -/
  zeroFree : ∀ r ∈ rules, r.condition.ZeroFree
  /-- The hash does not collide on the rules. -/
  apart : Digest.TellsApart (rules.map fun r => r.condition.fingerprint)

namespace ToldApart

variable (told : ToldApart rules) (mem : r ∈ rules) (mem' : r' ∈ rules)
include told mem mem'

/-- Rules that are told apart are the same if their parameters are. -/
theorem same_iff : r.same r' = true ↔ r.SameParameters r' := by
  rw [Rule.same_iff]
  constructor
  · intro digests
    have fingerprints := told.apart _ (List.mem_map_of_mem mem) _ (List.mem_map_of_mem mem') digests
    exact (Condition.fingerprint_eq_iff_sameParameters (told.zeroFree r' mem')).1 fingerprints
  · intro same
    exact congrArg Digest.ofBytes
      ((Condition.fingerprint_eq_iff_sameParameters (told.zeroFree r' mem')).2 same)

theorem condition_eq (same : r.SameParameters r') : r.condition = r'.condition := by
  unfold SameParameters at same
  generalize isThis : r.condition = c at same
  generalize isThat : r'.condition = c' at same
  cases same with
  | refl => rfl
  | named name p p' => rw [told.named r mem r' mem' name p p' isThis isThat]

end ToldApart

theorem eq_ofCondition (r : Rule) : r = .ofCondition r.condition := by
  obtain ⟨c, digest, rfl⟩ := r
  rfl

end Rule

/-! ### Runs of adds -/

namespace RuleSet

variable {s : RuleSet} {g : RuleGroup} {r : Rule} {adds : List (RuleGroup × Rule)}
  {kept rules : List Rule}

/-- A rule set after some adds. -/
def addAll (s : RuleSet) (adds : List (RuleGroup × Rule)) : RuleSet :=
  adds.foldl (fun s add => s.add add.1 add.2) s

/-- What was added to a group, in order. -/
def addedTo (g : RuleGroup) (adds : List (RuleGroup × Rule)) : List Rule :=
  (adds.filter (·.1 = g)).map (·.2)

theorem mem_addedTo : r ∈ addedTo g adds ↔ (g, r) ∈ adds := by
  simp [addedTo]

theorem mem_of_mem_addedTo (mem : r ∈ addedTo g adds) : r ∈ adds.map (·.2) :=
  List.mem_map_of_mem (mem_addedTo.1 mem)

/-- A group sees only what is added to it. -/
theorem group_addAll (s : RuleSet) (g : RuleGroup) (adds : List (RuleGroup × Rule)) :
    (s.addAll adds).group g = (addedTo g adds).foldl insert (s.group g) := by
  induction adds generalizing s with
  | nil => rfl
  | cons add rest ih =>
    obtain ⟨h, r⟩ := add
    have first : (s.addAll ((h, r) :: rest)).group g = ((s.add h r).addAll rest).group g := rfl
    rw [first, ih]
    by_cases here : h = g
    · subst here
      simp [addedTo]
    · rw [group_add_other s r (Ne.symm here)]
      simp [addedTo, here]

/-- Rules are added by their conditions. -/
theorem foldl_insert_eq_insertAll (kept rules : List Rule) :
    rules.foldl insert kept = insertAll kept (rules.map (·.condition)) := by
  unfold insertAll
  rw [List.foldl_map]
  congr
  funext rules r
  rw [← r.eq_ofCondition]

theorem group_empty (g : RuleGroup) : empty.group g = [] := by
  cases g <;> rfl

theorem group_eq_insertAll (g : RuleGroup) (adds : List (RuleGroup × Rule)) :
    (empty.addAll adds).group g = insertAll [] ((addedTo g adds).map (·.condition)) := by
  rw [group_addAll, group_empty, foldl_insert_eq_insertAll]

theorem group_eq_nil_iff : (empty.addAll adds).group g = [] ↔ ∀ r, (g, r) ∉ adds := by
  rw [group_eq_insertAll, insertAll_eq_nil, List.map_eq_nil_iff, List.eq_nil_iff_forall_not_mem]
  simp only [mem_addedTo]

/-! ### What a group keeps -/

/-- The loop of `List.eraseDupsBy` keeps what it has kept in reverse. -/
theorem foldl_insert_eq_loop (kept rules : List Rule) :
    rules.foldl insert kept = List.eraseDupsBy.loop Rule.same rules kept.reverse := by
  induction rules generalizing kept with
  | nil => simp [List.eraseDupsBy.loop]
  | cons r rest ih =>
    rw [List.foldl_cons, ih, List.eraseDupsBy.loop, List.any_reverse]
    unfold insert contains
    cases kept.any r.same with
    | true => rfl
    | false => simp

/-- Only comparisons of elements matter for which of them are erased. -/
theorem eraseDupsBy_loop_congr {α : Type} {f f' : α → α → Bool} {all l seen : List α}
    (agree : ∀ a ∈ all, ∀ b ∈ all, f a b = f' a b) (inside : l ⊆ all) (insideSeen : seen ⊆ all) :
    List.eraseDupsBy.loop f l seen = List.eraseDupsBy.loop f' l seen := by
  induction l generalizing seen with
  | nil => rfl
  | cons a rest ih =>
    obtain ⟨here, later⟩ := List.cons_subset.1 inside
    have sameAnswer : seen.any (f a) = seen.any (f' a) := by
      rw [Bool.eq_iff_iff, List.any_eq_true, List.any_eq_true]
      refine exists_congr fun b => and_congr_right fun mem => ?_
      rw [agree a here b (insideSeen mem)]
    rw [List.eraseDupsBy.loop, List.eraseDupsBy.loop, sameAnswer]
    cases seen.any (f' a) with
    | true => exact ih later insideSeen
    | false => exact ih later (List.cons_subset.2 ⟨here, insideSeen⟩)

/-- A rule stands in a group as itself or as a rule with its parameters. -/
theorem contains_group_iff (told : Rule.ToldApart rules) (mem : r ∈ rules)
    (sub : adds.map (·.2) ⊆ rules) :
    contains ((empty.addAll adds).group g) r = true ↔
      ∃ r', (g, r') ∈ adds ∧ r.SameParameters r' := by
  have same_iff : ∀ r', (g, r') ∈ adds → (r.same r' = true ↔ r.SameParameters r') :=
    fun r' added => told.same_iff mem (sub (List.mem_map_of_mem added))
  unfold contains
  rw [List.any_eq_true, group_eq_insertAll]
  constructor
  · rintro ⟨x, stands, same⟩
    rcases mem_of_mem_insertAll stands with isNone | ⟨c, isAdded, rfl⟩
    · cases isNone
    · obtain ⟨r', added, rfl⟩ := List.mem_map.1 isAdded
      rw [← r'.eq_ofCondition] at same
      have added := mem_addedTo.1 added
      exact ⟨r', added, (same_iff r' added).1 same⟩
  · rintro ⟨r', added, parameters⟩
    have isAdded := mem_addedTo.2 added
    obtain ⟨x, stands, digests⟩ := exists_mem_insertAll [] (List.mem_map_of_mem isAdded)
    rw [← r'.eq_ofCondition] at digests
    have same := beq_iff_eq.1 ((same_iff r' added).2 parameters)
    exact ⟨x, stands, beq_iff_eq.2 (same.trans digests.symm)⟩

theorem isNew_iff (told : Rule.ToldApart rules) (mem : r ∈ rules) (sub : adds.map (·.2) ⊆ rules) :
    (empty.addAll adds).isNew g r = true ↔ ∀ r', (g, r') ∈ adds → ¬ r.SameParameters r' := by
  unfold isNew
  rw [Bool.not_eq_true', Bool.eq_false_iff, Ne, contains_group_iff told mem sub]
  simp

/-- A group keeps the first rule of each kind. -/
theorem group_eq_eraseDupsBy (told : Rule.ToldApart (adds.map (·.2))) (g : RuleGroup) :
    (empty.addAll adds).group g =
      (addedTo g adds).eraseDupsBy fun r r' => decide (r.SameParameters r') := by
  have agree : ∀ r ∈ addedTo g adds, ∀ r' ∈ addedTo g adds,
      r.same r' = decide (r.SameParameters r') := by
    intro r mem r' mem'
    rw [Bool.eq_iff_iff, decide_eq_true_iff]
    exact told.same_iff (mem_of_mem_addedTo mem) (mem_of_mem_addedTo mem')
  rw [group_addAll, group_empty, foldl_insert_eq_loop]
  exact eraseDupsBy_loop_congr agree (List.Subset.refl _) (List.nil_subset _)

/-- A group asks what the rules ask that were added to it. -/
theorem holds_group_iff (told : Rule.ToldApart (adds.map (·.2))) (g : RuleGroup)
    (change : StateChange) :
    (∀ r ∈ (empty.addAll adds).group g, r.holds change = true) ↔
      ∀ r, (g, r) ∈ adds → r.holds change = true := by
  rw [group_eq_insertAll, holds_insertAll]
  · simp [mem_addedTo, Rule.holds]
  · intro a isAdded b isAdded' digests
    obtain ⟨r, added, rfl⟩ := List.mem_map.1 isAdded
    obtain ⟨r', added', rfl⟩ := List.mem_map.1 isAdded'
    rw [← r.eq_ofCondition, ← r'.eq_ofCondition] at digests
    have mem := mem_of_mem_addedTo added
    have mem' := mem_of_mem_addedTo added'
    exact told.condition_eq mem mem' ((told.same_iff mem mem').1 (beq_iff_eq.2 digests))

/-- An add is new exactly if no rule with the same parameters was added to the
group before. A group has the first occurrences of what was added to it, in
order, whatever was added to the others. An event qualifies exactly if all call
rules that were ever added hold, and cancels exactly if some cancel rule was
added and all scope and cancel rules that were ever added hold. -/
theorem keeps_first_occurrences (told : Rule.ToldApart (adds.map (·.2))) :
    (∀ before g r after, adds = before ++ (g, r) :: after →
      ((empty.addAll before).isNew g r = true ↔
        ∀ r', (g, r') ∈ before → ¬ r.SameParameters r')) ∧
    (∀ g, (empty.addAll adds).group g =
      (addedTo g adds).eraseDupsBy fun r r' => decide (r.SameParameters r')) ∧
    ∀ change,
      ((empty.addAll adds).allCall change = true ↔
        ∀ r, (.call, r) ∈ adds → r.holds change = true) ∧
      ((empty.addAll adds).allCancel change = true ↔
        (∃ r, (.cancel, r) ∈ adds) ∧
          ∀ r, (.scope, r) ∈ adds ∨ (.cancel, r) ∈ adds → r.holds change = true) := by
  refine ⟨?_, group_eq_eraseDupsBy told, fun change => ⟨?_, ?_⟩⟩
  · rintro before g r after rfl
    refine isNew_iff told ?_ ?_
    · simp
    · rw [List.map_append]
      exact List.subset_append_left _ _
  · rw [allCall_eq_true]
    exact holds_group_iff told .call change
  · have scopes := holds_group_iff told .scope change
    have cancels := holds_group_iff told .cancel change
    have some_ : (empty.addAll adds).cancel ≠ [] ↔ ∃ r, (.cancel, r) ∈ adds := by
      rw [Ne, show (empty.addAll adds).cancel = (empty.addAll adds).group .cancel from rfl,
        group_eq_nil_iff]
      simp
    simp only [group] at scopes cancels
    rw [allCancel_eq_true, some_, scopes, cancels]
    simp only [or_imp, forall_and]

/-- A rule with a predicate of the user's. -/
def turnsUnknown : Rule := .ofCondition (.custom "unknown" fun change => change.new.isNone)

/-- Two rules are added twice, one of them to two groups. -/
def lampAdds : List (RuleGroup × Rule) :=
  [(.call, turnsUnknown), (.cancel, Rule.turnedOn), (.call, Rule.renamed), (.call, turnsUnknown),
    (.scope, Rule.renamed)]

theorem lampAdds_toldApart : Rule.ToldApart (lampAdds.map (·.2)) where
  named := by
    intro r mem r' mem' name p p' isThis isThat
    have only : ∀ r ∈ lampAdds.map (·.2), ∀ name p, r.condition = .custom name p →
        p = fun change => change.new.isNone := by
      intro r mem name p isCustom
      simp only [lampAdds, List.map_cons, List.map_nil, List.mem_cons, List.not_mem_nil,
        or_false] at mem
      rcases mem with rfl | rfl | rfl | rfl | rfl <;> cases isCustom <;> rfl
    rw [only r mem name p isThis, only r' mem' name p' isThat]
  zeroFree := by
    intro r mem
    simp only [lampAdds, List.map_cons, List.map_nil, List.mem_cons, List.not_mem_nil,
      or_false] at mem
    rcases mem with rfl | rfl | rfl | rfl | rfl
    · trivial
    · trivial
    · exact Rule.renamed_zeroFree
    · trivial
    · exact Rule.renamed_zeroFree
  apart := Digest.tellsApart_of_dedup (by decide +kernel)

theorem keeps_first_occurrences_lamp :
    Rule.ToldApart (lampAdds.map (·.2)) ∧
      (empty.addAll (lampAdds.take 3)).isNew .call turnsUnknown = false ∧
      (empty.addAll (lampAdds.take 4)).isNew .scope Rule.renamed = true ∧
      (empty.addAll lampAdds).group .call = [turnsUnknown, Rule.renamed] ∧
      (empty.addAll lampAdds).allCancel Rule.attributeLost = false := by
  obtain ⟨news, groups, verdicts⟩ := keeps_first_occurrences lampAdds_toldApart
  refine ⟨lampAdds_toldApart, ?_, ?_, ?_, ?_⟩
  · have again := news (lampAdds.take 3) .call turnsUnknown [(.scope, Rule.renamed)] rfl
    refine Bool.eq_false_iff.2 fun isNew => ?_
    exact again.1 isNew turnsUnknown List.mem_cons_self (.refl _)
  · refine (news (lampAdds.take 4) .scope Rule.renamed [] rfl).2 fun r' mem => ?_
    simp [lampAdds] at mem
  · rw [groups .call]
    rfl
  · refine Bool.eq_false_iff.2 fun cancels => ?_
    have all := ((verdicts Rule.attributeLost).2.1 cancels).2
    exact absurd (all Rule.turnedOn (.inr (by simp [lampAdds]))) (by decide)

end RuleSet

end HubAutomation
