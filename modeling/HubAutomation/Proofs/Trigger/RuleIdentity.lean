import HubAutomation.Proofs.Json.DocumentTexts
import HubAutomation.Proofs.Trigger.Fingerprints

/-!
# What a fingerprint identifies

The fingerprint of a condition that is no predicate of the user's is the text of
its parts, each with a zero after it. Kinds, sides, entity ids, comparisons and
values have no zero in them, so they can be read back. The name of an attribute
may have zeros. One field between parts without zeros can still be read back;
two of them, around a comparison, can be cut in another place.

- `Condition.RunTogether`: comparisons that are cut in different places.
- `Condition.fingerprint_eq_iff`: they are the only conditions that share a
  fingerprint.
- `Condition.identified`: conditions, rules and groups of rules where the names
  have no zeros.
- `Condition.not_identified`: two conditions that an event tells apart and a
  group does not.
-/

namespace HubAutomation

/-- The character whose code is zero. -/
abbrev zeroChar : Char := '\x00'

/-! ### Texts without zeros -/

theorem Json.no_zero_text (j : Json) : zeroChar ∉ j.text.toList := by
  intro zero
  unfold text at zero
  rw [String.toList_ofList] at zero
  exact absurd (j.chars_not_control zeroChar zero) (by decide)

theorem Field.toList_attribute (name : String) :
    (Field.attribute name).text.toList = "attributes.".toList ++ name.toList := String.toList_append

/-- A zero in the text of a field stands in the name of an attribute. -/
theorem Field.eq_attribute_of_zero {f : Field} {p q : List Char}
    (h : f.text.toList = p ++ zeroChar :: q) :
    ∃ x, p = "attributes.".toList ++ x ∧ f = .attribute (String.ofList (x ++ zeroChar :: q)) := by
  have zero : zeroChar ∈ f.text.toList := by rw [h]; simp
  rcases f with _ | name | _ | _
  · exact absurd zero (by decide)
  · have start : zeroChar ∉ "attributes.".toList := by decide
    rw [toList_attribute] at h
    rcases List.append_eq_append_iff.1 h with ⟨x, first, rest⟩ | ⟨x, first, rest⟩
    · refine ⟨x, first, ?_⟩
      rw [← rest, String.ofList_toList]
    · cases x with
      | nil =>
        refine ⟨[], ?_, ?_⟩
        · rw [first, List.append_nil, List.append_nil]
        · rw [List.nil_append, rest, List.nil_append, String.ofList_toList]
      | cons c x =>
        rw [first, ← (List.cons.inj rest).1] at start
        simp at start
  · exact absurd zero (by decide)
  · exact absurd zero (by decide)

/-- How a comparison is spelled. -/
def Comparison.sign : Comparison → String
  | .equal => "=="
  | .different => "!="

theorem Comparison.no_zero_sign (c : Comparison) : zeroChar ∉ c.sign.toList := by
  cases c <;> decide

theorem Comparison.sign_injective {c c' : Comparison} (h : c.sign = c'.sign) : c = c' := by
  cases c <;> cases c' <;> first | rfl | exact absurd h (by decide)

namespace Condition

variable {a b : Condition} {old old' new new' : Field} {c c' : Comparison}

/-! ### Fingerprints as texts -/

/-- The parts of a condition, each with a zero after it. -/
def spelling (c : Condition) : List Char := c.parts.flatMap fun part => part.toList ++ [zeroChar]

theorem toUTF8_append (s t : String) :
    (s ++ t).toUTF8.toList = s.toUTF8.toList ++ t.toUTF8.toList := by
  rw [toList_eq_data, toList_eq_data, toList_eq_data]
  show (s ++ t).toByteArray.data.toList = _
  rw [String.toByteArray_append, ByteArray.data_append, Array.toList_append]
  rfl

theorem flatMap_partBytes (parts : List String) : parts.flatMap partBytes =
    (String.ofList (parts.flatMap fun part => part.toList ++ [zeroChar])).toUTF8.toList := by
  induction parts with
  | nil =>
    rw [toList_eq_data]
    rfl
  | cons part parts ih =>
    have zero : (String.ofList [zeroChar]).toUTF8.toList = [0] := by decide +kernel
    rw [List.flatMap_cons, List.flatMap_cons, ih, String.ofList_append, String.ofList_append,
      String.ofList_toList, toUTF8_append, toUTF8_append, zero]
    rfl

theorem spelling_eq_iff : a.fingerprint = b.fingerprint ↔ a.spelling = b.spelling := by
  unfold fingerprint
  rw [flatMap_partBytes, flatMap_partBytes]
  constructor
  · intro h
    exact String.ofList_injective (utf8_injective h)
  · intro h
    exact congrArg (fun cs => (String.ofList cs).toUTF8.toList) h

/-- The last separator begins the last part. -/
theorem split_at_last {α : Type} {z : α} {p q x y : List α} (hx : z ∉ x) (hy : z ∉ y)
    (h : p ++ z :: x = q ++ z :: y) : p = q ∧ x = y := by
  have reversed := congrArg List.reverse h
  simp only [List.reverse_append, List.reverse_cons, List.append_assoc,
    List.singleton_append] at reversed
  obtain ⟨last, first⟩ := split_at_first (List.mem_reverse.not.2 hx) (List.mem_reverse.not.2 hy)
    reversed
  exact ⟨List.reverse_inj.1 first, List.reverse_inj.1 last⟩

/-! ### Conditions with one field or none -/

theorem entity_eq {id id' : EntityId} (h : (entity id).fingerprint = (entity id').fingerprint) :
    id = id' := by
  have spelled := spelling_eq_iff.1 h
  have texts : id.text.toList = id'.text.toList := by simpa [spelling, parts] using spelled
  exact EntityId.text_injective (String.toList_inj.1 texts)

/-- A value has no zeros, so what stands before it is the field. -/
theorem equals_eq {side side' : Side} {field field' : Field} {value value' : Json}
    (h : (equals side field value).fingerprint = (equals side' field' value').fingerprint) :
    equals side field value = equals side' field' value' := by
  obtain rfl := side_eq h
  have spelled := spelling_eq_iff.1 h
  have texts : field.text.toList ++ zeroChar :: value.text.toList =
      field'.text.toList ++ zeroChar :: value'.text.toList := by
    have ended : (field.text.toList ++ zeroChar :: value.text.toList) ++ [zeroChar] =
        (field'.text.toList ++ zeroChar :: value'.text.toList) ++ [zeroChar] := by
      simpa [spelling, parts] using spelled
    exact List.append_cancel_right ended
  obtain ⟨fields, values⟩ := split_at_last value.no_zero_text value'.no_zero_text texts
  rw [Field.text_injective (String.toList_inj.1 fields),
    Json.text_injective (String.toList_inj.1 values)]

/-! ### Comparisons -/

/-- Two comparisons whose texts are the same, cut in different places: a piece
of the new field in the first one is a piece of the old field in the second. -/
inductive RunTogether : Condition → Condition → Prop where
  | mk (x y : String) (c c' : Comparison) (new : Field) :
    RunTogether
      (compare (.attribute x) c (.attribute (y ++ "\x00" ++ c'.sign ++ "\x00" ++ new.text)))
      (compare (.attribute (x ++ "\x00" ++ c.sign ++ "\x00attributes." ++ y)) c' new)

theorem spelling_compare (old new : Field) (c : Comparison) :
    (compare old c new).spelling = "compare".toList ++ zeroChar ::
      (old.text.toList ++ zeroChar :: (c.sign.toList ++ zeroChar :: new.text.toList)) ++
        [zeroChar] := by
  cases c <;> simp [spelling, parts, Comparison.sign]

theorem compare_texts (h : (compare old c new).fingerprint = (compare old' c' new').fingerprint) :
    old.text.toList ++ zeroChar :: (c.sign.toList ++ zeroChar :: new.text.toList) =
      old'.text.toList ++ zeroChar :: (c'.sign.toList ++ zeroChar :: new'.text.toList) := by
  have spelled := spelling_eq_iff.1 h
  rw [spelling_compare, spelling_compare] at spelled
  have ended := List.append_cancel_left (List.append_cancel_right spelled)
  exact (List.cons.inj ended).2

theorem RunTogether.fingerprint_eq (h : RunTogether a b) : a.fingerprint = b.fingerprint := by
  obtain ⟨x, y, c, c', new⟩ := h
  have zero : "\x00".toList = [zeroChar] := rfl
  have zeroStart : "\x00attributes.".toList = zeroChar :: "attributes.".toList := rfl
  rw [spelling_eq_iff, spelling_compare, spelling_compare]
  simp only [Field.text, String.toList_append, zero, zeroStart, List.append_assoc, List.cons_append,
    List.nil_append]

/-- No field begins with a sign. -/
theorem text_ne_sign (f : Field) (c : Comparison) (q : List Char) :
    f.text.toList ≠ c.sign.toList ++ zeroChar :: q := by
  intro h
  obtain ⟨x, first, -⟩ := Field.eq_attribute_of_zero h
  have length := congrArg List.length first
  have short : c.sign.toList.length = 2 := by cases c <;> rfl
  have long : "attributes.".toList.length = 11 := rfl
  rw [List.length_append, short, long] at length
  omega

/-- Where the first field of the second comparison is the longer one, the rest
of it stands in the new field of the first comparison. -/
theorem exists_piece (h : old.text.toList ++ zeroChar ::
      (c.sign.toList ++ zeroChar :: new.text.toList) =
        old'.text.toList ++ zeroChar :: (c'.sign.toList ++ zeroChar :: new'.text.toList))
    (lt : old.text.toList.length < old'.text.toList.length) :
    ∃ v, old'.text.toList = old.text.toList ++ zeroChar :: (c.sign.toList ++ zeroChar :: v) ∧
      new.text.toList = v ++ zeroChar :: (c'.sign.toList ++ zeroChar :: new'.text.toList) := by
  have noZero := c.no_zero_sign
  -- The new field would begin with the sign of the second comparison.
  have notNext : zeroChar :: new.text.toList ≠
      zeroChar :: (c'.sign.toList ++ zeroChar :: new'.text.toList) := by
    intro same
    exact text_ne_sign new c' _ (List.cons.inj same).2
  rcases List.append_eq_append_iff.1 h with ⟨t, first, rest⟩ | ⟨t, first, -⟩
  · cases t with
    | nil =>
      rw [first, List.append_nil] at lt
      omega
    | cons z t =>
      obtain ⟨rfl, tails⟩ := List.cons.inj rest
      rcases List.append_eq_append_iff.1 tails with ⟨u, sign, rest⟩ | ⟨u, sign, rest⟩
      · cases u with
        | nil => exact absurd rest notNext
        | cons z v =>
          obtain ⟨rfl, news⟩ := List.cons.inj rest
          exact ⟨v, by rw [first, sign], news⟩
      · cases u with
        | nil => exact absurd rest.symm notNext
        | cons z u =>
          rw [sign, ← (List.cons.inj rest).1] at noZero
          simp at noZero
  · rw [first, List.length_append] at lt
    omega

theorem runTogether_of_lt
    (h : (compare old c new).fingerprint = (compare old' c' new').fingerprint)
    (lt : old.text.toList.length < old'.text.toList.length) :
    RunTogether (compare old c new) (compare old' c' new') := by
  obtain ⟨v, olds, news⟩ := exists_piece (compare_texts h) lt
  obtain ⟨x, oldText, rfl⟩ := Field.eq_attribute_of_zero olds
  obtain ⟨y, rfl, rfl⟩ := Field.eq_attribute_of_zero news
  have oldField : old = .attribute (String.ofList x) := by
    refine Field.text_injective (String.toList_inj.1 ?_)
    rw [oldText, Field.toList_attribute, String.toList_ofList (l := x)]
  have oldName : String.ofList
      (x ++ zeroChar :: (c.sign.toList ++ zeroChar :: ("attributes.".toList ++ y))) =
        String.ofList x ++ "\x00" ++ c.sign ++ "\x00attributes." ++ String.ofList y := by
    refine String.toList_inj.1 ?_
    simp
  have newName : String.ofList
      (y ++ zeroChar :: (c'.sign.toList ++ zeroChar :: new'.text.toList)) =
        String.ofList y ++ "\x00" ++ c'.sign ++ "\x00" ++ new'.text := by
    refine String.toList_inj.1 ?_
    simp
  rw [oldField, oldName, newName]
  exact .mk _ _ c c' new'

theorem compare_eq_or
    (h : (compare old c new).fingerprint = (compare old' c' new').fingerprint) :
    compare old c new = compare old' c' new' ∨
      RunTogether (compare old c new) (compare old' c' new') ∨
        RunTogether (compare old' c' new') (compare old c new) := by
  rcases Nat.lt_trichotomy old.text.toList.length old'.text.toList.length with lt | same | gt
  · exact .inr (.inl (runTogether_of_lt h lt))
  · obtain ⟨olds, rest⟩ := List.append_inj (compare_texts h) same
    obtain ⟨signs, news⟩ :=
      split_at_first c.no_zero_sign c'.no_zero_sign (List.cons.inj rest).2
    left
    rw [Field.text_injective (String.toList_inj.1 olds),
      Comparison.sign_injective (String.toList_inj.1 signs),
      Field.text_injective (String.toList_inj.1 news)]
  · exact .inr (.inr (runTogether_of_lt h.symm gt))

/-! ### What a fingerprint identifies -/

/-- The condition is a predicate of the user's. -/
def isCustom : Condition → Bool
  | .custom _ _ => true
  | _ => false

/-- Conditions with the same fingerprint are the same, or comparisons that are
cut in different places. -/
theorem fingerprint_eq_iff (ha : a.isCustom = false) (hb : b.isCustom = false) :
    a.fingerprint = b.fingerprint ↔ a = b ∨ RunTogether a b ∨ RunTogether b a := by
  constructor
  · intro h
    have kinds := (kind_eq h).1
    -- Conditions of different kinds are told apart by their first part.
    cases a with
    | always =>
      cases b with
      | always => exact .inl rfl
      | custom => cases hb
      | _ => simp [kind] at kinds
    | entity id =>
      cases b with
      | entity id' => exact .inl (congrArg entity (entity_eq h))
      | custom => cases hb
      | _ => simp [kind] at kinds
    | equals side field value =>
      cases b with
      | equals side' field' value' => exact .inl (equals_eq h)
      | custom => cases hb
      | _ => simp [kind] at kinds
    | fieldChanged field =>
      cases b with
      | fieldChanged field' => exact .inl (congrArg fieldChanged (field_eq h))
      | custom => cases hb
      | _ => simp [kind] at kinds
    | compare old c new =>
      cases b with
      | compare old' c' new' => exact compare_eq_or h
      | custom => cases hb
      | _ => simp [kind] at kinds
    | custom => cases ha
  · rintro (rfl | h | h)
    · rfl
    · exact h.fingerprint_eq
    · exact h.fingerprint_eq.symm

/-! ### Names without zeros -/

/-- No field of a comparison is an attribute with a zero in its name. -/
def ZeroFree : Condition → Prop
  | .compare old _ new =>
    ∀ name, old = .attribute name ∨ new = .attribute name → zeroChar ∉ name.toList
  | _ => True

theorem RunTogether.not_zeroFree (h : RunTogether a b) : ¬ a.ZeroFree ∧ ¬ b.ZeroFree := by
  obtain ⟨x, y, c, c', new⟩ := h
  constructor
  · intro free
    have zero := free _ (.inr rfl)
    simp at zero
  · intro free
    have zero := free _ (.inl rfl)
    simp at zero

/-- If the names of one condition have no zeros, no other one has its
fingerprint. -/
theorem eq_of_fingerprint (ha : a.isCustom = false) (hb : b.isCustom = false) (free : b.ZeroFree)
    (h : a.fingerprint = b.fingerprint) : a = b := by
  rcases (fingerprint_eq_iff ha hb).1 h with same | cut | cut
  · exact same
  · exact absurd free cut.not_zeroFree.2
  · exact absurd free cut.not_zeroFree.1

end Condition

/-! ### Rules and groups of rules -/

namespace Rule

variable {r r' : Rule}

theorem same_iff : r.same r' = true ↔
    Digest.ofBytes r.condition.fingerprint = Digest.ofBytes r'.condition.fingerprint := by
  unfold same
  rw [beq_iff_eq, r.digest_eq, r'.digest_eq]

/-- Rules whose fingerprints are the same ask the same, or compare fields that
are cut in different places. Where the names of the second rule have no zeros,
rules with its fingerprint are that rule; if the hash tells the fingerprints
apart, so are rules that equal it, and a group that drops it has it. -/
theorem identified (plain : r.condition.isCustom = false) (plain' : r'.condition.isCustom = false) :
    (r.condition.fingerprint = r'.condition.fingerprint ↔
      r.condition = r'.condition ∨ Condition.RunTogether r.condition r'.condition ∨
        Condition.RunTogether r'.condition r.condition) ∧
    (r'.condition.ZeroFree →
      (r.condition.fingerprint = r'.condition.fingerprint →
        r.condition = r'.condition ∧ ∀ change, r.holds change = r'.holds change) ∧
      (Digest.TellsApart [r.condition.fingerprint, r'.condition.fingerprint] →
        r.same r' = true →
          r.condition = r'.condition ∧ ∀ change, r.holds change = r'.holds change) ∧
      ∀ rules : List Rule, (∀ s ∈ rules, s.condition.isCustom = false) →
        Digest.TellsApart ((r' :: rules).map fun s => s.condition.fingerprint) →
          RuleSet.insert rules r' = rules → ∃ s ∈ rules, s.condition = r'.condition) := by
  refine ⟨Condition.fingerprint_eq_iff plain plain', fun free => ?_⟩
  have agree : r.condition = r'.condition →
      r.condition = r'.condition ∧ ∀ change, r.holds change = r'.holds change := by
    intro same
    refine ⟨same, fun change => ?_⟩
    unfold holds
    rw [same]
  refine ⟨?_, ?_, ?_⟩
  · intro h
    exact agree (Condition.eq_of_fingerprint plain plain' free h)
  · intro apart same
    have h := apart _ List.mem_cons_self _ (List.mem_cons_of_mem _ List.mem_cons_self) (same_iff.1 same)
    exact agree (Condition.eq_of_fingerprint plain plain' free h)
  · intro rules plains apart dropped
    -- The group has not become longer, so a rule with the same digest was there.
    have isThere : RuleSet.contains rules r' = true := by
      by_contra new
      unfold RuleSet.insert at dropped
      rw [if_neg new] at dropped
      have length := congrArg List.length dropped
      rw [List.length_append, List.length_singleton] at length
      omega
    obtain ⟨s, mem, same⟩ := List.any_eq_true.1 isThere
    refine ⟨s, mem, ?_⟩
    have fingerprints : r'.condition.fingerprint = s.condition.fingerprint := by
      refine apart _ ?_ _ ?_ (same_iff.1 same)
      · exact List.mem_cons_self
      · exact List.mem_cons_of_mem _ (List.mem_map_of_mem mem)
    exact Condition.eq_of_fingerprint (plains s mem) plain' free fingerprints.symm

/-- A rule on a lamp that has been turned on, and one on its name. -/
def turnedOn : Rule := .ofCondition (.equals .new .state (.string "on"))

def renamed : Rule :=
  .ofCondition (.compare (.attribute "friendly_name") .different (.attribute "friendly_name"))

theorem renamed_zeroFree : renamed.condition.ZeroFree := by
  intro name isName
  have names : name = "friendly_name" := by
    rcases isName with e | e <;> cases e <;> rfl
  rw [names]
  decide

theorem identified_renamed :
    turnedOn.condition.fingerprint ≠ renamed.condition.fingerprint ∧
      turnedOn.same renamed = false ∧ RuleSet.insert [turnedOn] renamed ≠ [turnedOn] := by
  have differ : turnedOn.condition ≠ renamed.condition := Condition.noConfusion
  obtain ⟨-, known⟩ := @identified turnedOn renamed rfl rfl
  obtain ⟨fingerprints, digests, group⟩ := known renamed_zeroFree
  refine ⟨?_, ?_, ?_⟩
  · intro h
    exact differ (fingerprints h).1
  · refine Bool.eq_false_iff.2 fun same => ?_
    exact differ (digests (Digest.tellsApart_of_nodup (by decide +kernel)) same).1
  · intro dropped
    have plains : ∀ s ∈ [turnedOn], s.condition.isCustom = false := by
      intro s mem
      rw [List.mem_singleton.1 mem]
      rfl
    have apart : Digest.TellsApart ([renamed, turnedOn].map fun s => s.condition.fingerprint) :=
      Digest.tellsApart_of_nodup (by decide +kernel)
    obtain ⟨s, mem, same⟩ := group [turnedOn] plains apart dropped
    rw [List.mem_singleton.1 mem] at same
    exact differ same

/-- One field with a zero in its name and two, in two places. -/
def cutLate : Rule :=
  .ofCondition (.compare (.attribute "a\x00==\x00attributes.b") .equal (.attribute "c"))

def cutEarly : Rule :=
  .ofCondition (.compare (.attribute "a") .equal (.attribute "b\x00==\x00attributes.c"))

/-- An event with the attribute `a` on the old side only. -/
def attributeLost : StateChange where
  entityId := ⟨"light", "lamp", by decide, by decide⟩
  old := some {
    entityId := ⟨"light", "lamp", by decide, by decide⟩
    value := "on"
    attributes := [("a", .bool true)]
    lastChanged := ⟨⟨2024, 3, 1⟩, 18, 2, 11, 0⟩
    lastUpdated := ⟨⟨2024, 3, 1⟩, 18, 2, 11, 0⟩
    lastReported := none
    context := .withId "01HQ" }
  new := none

/-- The two rules have one fingerprint, so they are equal and a group keeps only
one of them, but an event tells them apart. -/
theorem not_identified :
    cutLate.condition.isCustom = false ∧ cutEarly.condition.isCustom = false ∧
      cutLate.condition.fingerprint = cutEarly.condition.fingerprint ∧
      cutLate.condition ≠ cutEarly.condition ∧
      cutLate.same cutEarly = true ∧
      RuleSet.insert [cutLate] cutEarly = [cutLate] ∧
      cutLate.holds attributeLost = true ∧ cutEarly.holds attributeLost = false := by
  have fingerprints : cutLate.condition.fingerprint = cutEarly.condition.fingerprint :=
    (Condition.RunTogether.mk "a" "b" .equal .equal (.attribute "c")).fingerprint_eq.symm
  have same : cutEarly.same cutLate = true := same_iff.2 (by rw [fingerprints])
  have same' : cutLate.same cutEarly = true := same_iff.2 (by rw [fingerprints])
  have group : RuleSet.insert [cutLate] cutEarly = [cutLate] := by
    unfold RuleSet.insert RuleSet.contains
    rw [List.any_cons, same, Bool.true_or, if_pos rfl]
  have differ : cutLate.condition ≠ cutEarly.condition := by
    intro h
    injection h with olds
    injection olds with names
    exact absurd names (by decide)
  exact ⟨rfl, rfl, fingerprints, differ, same', group, by rfl, by rfl⟩

end Rule

end HubAutomation
