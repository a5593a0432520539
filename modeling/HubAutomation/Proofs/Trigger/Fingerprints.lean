import Mathlib.Data.List.Dedup
import HubAutomation.Proofs.EntityTexts
import HubAutomation.Trigger.RuleSet

/-!
# Rules that stand for conditions

A group keeps one rule for each digest. Fingerprints end each of their parts
with a zero byte, so that no part runs into the next one: conditions of
different kinds have different fingerprints, and so have conditions on
different sides or fields. As long as the hash gives different fingerprints
different digests, no condition gets lost in a group.

- `Digest.TellsApart`: no two of some inputs have the same digest.
- `Condition.kind_eq`: the fingerprint of a condition shows its kind.
- `RuleSet.insertAll`: add the rules of some conditions.
- `RuleSet.holds_insertAll`: the rules ask what the conditions ask.
-/

namespace HubAutomation

/-- The hash gives each of the inputs a digest of its own. -/
def Digest.TellsApart (inputs : List (List UInt8)) : Prop :=
  ∀ a ∈ inputs, ∀ b ∈ inputs, Digest.ofBytes a = Digest.ofBytes b → a = b

/-- Inputs with different digests are told apart. -/
theorem Digest.tellsApart_of_nodup {inputs : List (List UInt8)}
    (nodup : (inputs.map Digest.ofBytes).Nodup) : Digest.TellsApart inputs :=
  fun _ ha _ hb same => List.inj_on_of_nodup_map nodup ha hb same

/-- To tell inputs apart, one look at each of them is enough. -/
theorem Digest.tellsApart_of_dedup {inputs : List (List UInt8)}
    (nodup : (inputs.dedup.map Digest.ofBytes).Nodup) : Digest.TellsApart inputs := by
  intro a ha b hb same
  exact Digest.tellsApart_of_nodup nodup a (List.mem_dedup.2 ha) b (List.mem_dedup.2 hb) same

namespace Condition

/-! ### Parts as bytes -/

/-- The bytes of an array are listed from an index on. -/
theorem toList_loop (b : ByteArray) (i : Nat) (bytes : List UInt8) :
    ByteArray.toList.loop b i bytes = bytes.reverse ++ b.data.toList.drop i := by
  fun_induction ByteArray.toList.loop b i bytes with
  | case1 i bytes lt ih =>
    have isByte : i < b.data.toList.length := lt
    rw [ih, List.drop_eq_getElem_cons isByte]
    simp [ByteArray.get!, lt]
  | case2 i bytes ge =>
    have beyond : b.data.toList.length ≤ i := Nat.le_of_not_lt ge
    rw [List.drop_eq_nil_of_le beyond, List.append_nil]

/-- The list of bytes of an array is the one that it stores. -/
theorem toList_eq_data (b : ByteArray) : b.toList = b.data.toList := by
  unfold ByteArray.toList
  rw [toList_loop, List.reverse_nil, List.nil_append, List.drop_zero]

/-- Different texts have different bytes. -/
theorem utf8_injective {s t : String} (h : s.toUTF8.toList = t.toUTF8.toList) : s = t := by
  rw [toList_eq_data, toList_eq_data] at h
  exact String.toByteArray_inj.1 (ByteArray.ext (Array.toList_inj.1 h))

/-- A part without zeros ends where the first zero is, so it can be told from what
follows. -/
theorem partBytes_append {p q : String} {x y : List UInt8} (hp : 0 ∉ p.toUTF8.toList)
    (hq : 0 ∉ q.toUTF8.toList) (h : partBytes p ++ x = partBytes q ++ y) : p = q ∧ x = y := by
  unfold partBytes at h
  rw [List.append_assoc, List.append_assoc] at h
  obtain ⟨bytes, rest⟩ := split_at_first hp hq h
  exact ⟨utf8_injective bytes, rest⟩

/-! ### What a fingerprint shows -/

/-- The first part of the fingerprint. -/
def kind : Condition → String
  | .always => "empty"
  | .entity _ => "entity"
  | .equals _ _ _ => "equals"
  | .fieldChanged _ => "field_changed"
  | .compare _ _ _ => "compare"
  | .custom _ _ => "custom"

/-- The first part is the kind. -/
theorem parts_eq (c : Condition) : c.parts = c.kind :: c.parts.tail := by
  unfold parts
  split <;> rfl

/-- No kind has a zero in it. -/
theorem kind_no_zero (c : Condition) : 0 ∉ c.kind.toUTF8.toList := by
  cases c <;> (dsimp only [kind]; decide +kernel)

/-- No side has a zero in it. -/
theorem side_no_zero (side : Side) : 0 ∉ side.text.toUTF8.toList := by
  cases side <;> decide +kernel

/-- A fingerprint shows the kind, and the bytes of the other parts. -/
theorem kind_eq {a b : Condition} (h : a.fingerprint = b.fingerprint) :
    a.kind = b.kind ∧ a.parts.tail.flatMap partBytes = b.parts.tail.flatMap partBytes := by
  unfold fingerprint at h
  rw [a.parts_eq, b.parts_eq, List.flatMap_cons, List.flatMap_cons] at h
  exact partBytes_append a.kind_no_zero b.kind_no_zero h

/-- A fingerprint shows the side that a value is asked of. -/
theorem side_eq {side side' : Side} {field field' : Field} {value value' : Json}
    (h : (equals side field value).fingerprint = (equals side' field' value').fingerprint) :
    side = side' := by
  obtain ⟨e, -⟩ := partBytes_append (side_no_zero side) (side_no_zero side') (kind_eq h).2
  cases side <;> cases side' <;> first | rfl | exact absurd e (by decide)

end Condition

/-- A field can be told from its text. -/
theorem Field.text_injective {f g : Field} (h : f.text = g.text) : f = g := by
  have chars := congrArg String.toList h
  cases f <;> cases g <;> simp [Field.text] at chars ⊢
  exact String.toList_inj.1 chars

namespace Condition

/-- One part alone may have zeros. -/
theorem last_part_eq {p q : String} (h : [p].flatMap partBytes = [q].flatMap partBytes) : p = q := by
  rw [List.flatMap_singleton, List.flatMap_singleton] at h
  exact utf8_injective (List.append_cancel_right h)

/-- A fingerprint shows the field that is to change. -/
theorem field_eq {f g : Field} (h : (fieldChanged f).fingerprint = (fieldChanged g).fingerprint) :
    f = g := Field.text_injective (last_part_eq (kind_eq h).2)

end Condition

/-! ### Groups of rules -/

namespace RuleSet

/-- Add the rules of some conditions, one after the other. -/
def insertAll (rules : List Rule) (conditions : List Condition) : List Rule :=
  conditions.foldl (fun rules c => insert rules (.ofCondition c)) rules

/-- Rules can be added in two parts. -/
theorem insertAll_append (rules : List Rule) (cs cs' : List Condition) :
    insertAll rules (cs ++ cs') = insertAll (insertAll rules cs) cs' := List.foldl_append

section

variable {rules : List Rule} {r r' : Rule} {conditions : List Condition} {c : Condition}

/-- A rule of the group was there before, or it is the one that was added. -/
theorem mem_of_mem_insert (h : r' ∈ insert rules r) : r' ∈ rules ∨ r' = r := by
  unfold insert at h
  split at h
  · exact .inl h
  · simpa using h

/-- No rule is lost by adding one. -/
theorem mem_insert_of_mem (h : r' ∈ rules) : r' ∈ insert rules r := by
  unfold insert
  split
  · exact h
  · exact List.mem_append_left _ h

/-- What is added is there, if only as another rule with its digest. -/
theorem exists_mem_insert (rules : List Rule) (r : Rule) :
    ∃ r' ∈ insert rules r, r'.digest = r.digest := by
  unfold insert
  split
  · rename_i isThere
    obtain ⟨r', mem, same⟩ := List.any_eq_true.1 isThere
    exact ⟨r', mem, (beq_iff_eq.1 same).symm⟩
  · exact ⟨r, by simp, rfl⟩

/-- A rule of the group was there before, or it stands for one of the conditions. -/
theorem mem_of_mem_insertAll (h : r ∈ insertAll rules conditions) :
    r ∈ rules ∨ ∃ c ∈ conditions, r = .ofCondition c := by
  induction conditions generalizing rules with
  | nil => exact .inl h
  | cons c rest ih =>
    rcases ih h with first | ⟨c', mem, e⟩
    · rcases mem_of_mem_insert first with old | rfl
      · exact .inl old
      · exact .inr ⟨c, List.mem_cons_self, rfl⟩
    · exact .inr ⟨c', List.mem_cons_of_mem _ mem, e⟩

/-- No rule is lost by adding more. -/
theorem mem_insertAll_of_mem (h : r ∈ rules) : r ∈ insertAll rules conditions := by
  induction conditions generalizing rules with
  | nil => exact h
  | cons c rest ih => exact ih (mem_insert_of_mem h)

/-- Every condition has a rule in the group, if only one with the same digest. -/
theorem exists_mem_insertAll (rules : List Rule) (h : c ∈ conditions) :
    ∃ r ∈ insertAll rules conditions, r.digest = (Rule.ofCondition c).digest := by
  induction conditions generalizing rules with
  | nil => cases h
  | cons c' rest ih =>
    rcases List.mem_cons.1 h with rfl | h
    · obtain ⟨r, mem, same⟩ := exists_mem_insert rules (.ofCondition c)
      have stays : r ∈ insertAll (insert rules (.ofCondition c)) rest := mem_insertAll_of_mem mem
      exact ⟨r, stays, same⟩
    · exact ih _ h

/-- A group without rules has none to add. -/
theorem insertAll_eq_nil : insertAll [] conditions = [] ↔ conditions = [] := by
  constructor
  · intro none_
    refine List.eq_nil_iff_forall_not_mem.2 fun c mem => ?_
    obtain ⟨r, mem', -⟩ := exists_mem_insertAll [] mem
    rw [none_] at mem'
    cases mem'
  · rintro rfl
    rfl

/-- If conditions with the same digest are the same, the rules of some
conditions ask what the conditions ask. -/
theorem holds_insertAll (change : StateChange)
    (apart : ∀ a ∈ conditions, ∀ b ∈ conditions,
      (Rule.ofCondition a).digest = (Rule.ofCondition b).digest → a = b) :
    (∀ r ∈ insertAll [] conditions, r.holds change = true) ↔
      ∀ c ∈ conditions, c.holds change = true := by
  constructor
  · intro all c mem
    obtain ⟨r, isRule, same⟩ := exists_mem_insertAll [] mem
    rcases mem_of_mem_insertAll isRule with isNone | ⟨c', mem', rfl⟩
    · cases isNone
    · exact apart c' mem' c mem same ▸ all _ isRule
  · intro all r mem
    rcases mem_of_mem_insertAll mem with isNone | ⟨c, mem', rfl⟩
    · cases isNone
    · exact all c mem'

end

end RuleSet

end HubAutomation
