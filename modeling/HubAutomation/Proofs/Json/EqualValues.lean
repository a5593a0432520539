import HubAutomation.Trigger.Rule

/-!
# Equal values

Equality of values is an equivalence. It is coarser than being the same
document, as the two zeros are equal.

- `Json.same_of_same`: values that are equal to a third one are equal.
- `Json.same_self`, `Json.same_comm`: a value equals itself, and two values equal
  each other or neither does.
- `sameValue_of_same`: the same for values that may be missing.
-/

namespace HubAutomation

/-! ### Values that are equal to a third one -/

/-- Numbers that equal a third one are equal. -/
theorem Number.same_of_same {a b v : Number} (ha : a.same v = true) (hb : b.same v = true) :
    a.same b = true := by
  cases v <;> cases a <;> cases b <;> simp [same, Binary64.same] at ha hb ⊢
  · rw [ha, hb]
  · obtain ⟨pa, sa⟩ := ha
    obtain ⟨pb, sb⟩ := hb
    refine ⟨pa.trans pb.symm, ?_⟩
    rcases sa with sa | zero
    · rcases sb with sb | zero
      · exact .inl (sa.trans sb.symm)
      · exact .inr (pa.trans (pb.symm.trans zero))
    · exact .inr zero

namespace Json

variable {a v : Json}

theorem same_null_iff : a.same .null = true ↔ a = .null := by
  cases a <;> simp [same]

theorem same_bool_iff {x : Bool} : a.same (.bool x) = true ↔ a = .bool x := by
  cases a <;> simp [same]

theorem same_string_iff {s : String} : a.same (.string s) = true ↔ a = .string s := by
  cases a <;> simp [same]

theorem same_number_iff {n : Number} :
    a.same (.number n) = true ↔ ∃ m, a = .number m ∧ m.same n = true := by
  cases a <;> simp [same]

theorem same_array_iff {items : List Json} :
    a.same (.array items) = true ↔ ∃ own, a = .array own ∧ sameItems own items = true := by
  cases a <;> simp [same]

/-- An object equals one with members that are equal, one by one. -/
theorem same_object_iff {members : List (String × Json)} :
    a.same (.object members) = true ↔
      ∃ own, a = .object own ∧ sameMembers own members = true := by
  cases a <;> simp [same]

mutual

/-- Values that are equal to a third one are equal. -/
theorem same_of_same : ∀ (v : Json) {a b : Json}, a.same v = true → b.same v = true →
    a.same b = true
  | .null, _, _, ha, hb => by
    rw [same_null_iff.1 ha, same_null_iff.1 hb]
    rfl
  | .bool x, _, _, ha, hb => by
    rw [same_bool_iff.1 ha, same_bool_iff.1 hb]
    exact beq_self_eq_true x
  | .string s, _, _, ha, hb => by
    rw [same_string_iff.1 ha, same_string_iff.1 hb]
    exact beq_self_eq_true s
  | .number n, _, _, ha, hb => by
    obtain ⟨na, rfl, ha⟩ := same_number_iff.1 ha
    obtain ⟨nb, rfl, hb⟩ := same_number_iff.1 hb
    exact Number.same_of_same ha hb
  | .array items, _, _, ha, hb => by
    obtain ⟨as, rfl, ha⟩ := same_array_iff.1 ha
    obtain ⟨bs, rfl, hb⟩ := same_array_iff.1 hb
    exact sameItems_of_same items ha hb
  | .object members, _, _, ha, hb => by
    obtain ⟨as, rfl, ha⟩ := same_object_iff.1 ha
    obtain ⟨bs, rfl, hb⟩ := same_object_iff.1 hb
    exact sameMembers_of_same members ha hb

/-- Items that equal other items are equal among each other. -/
theorem sameItems_of_same : ∀ (vs : List Json) {as bs : List Json}, sameItems as vs = true →
    sameItems bs vs = true → sameItems as bs = true
  | [], [], [], _, _ => rfl
  | v :: vs, a :: as, b :: bs, ha, hb => by
    rw [sameItems, Bool.and_eq_true] at ha hb ⊢
    exact ⟨same_of_same v ha.1 hb.1, sameItems_of_same vs ha.2 hb.2⟩

/-- Members that equal other members are equal among each other. -/
theorem sameMembers_of_same : ∀ (vs : List (String × Json)) {as bs : List (String × Json)},
    sameMembers as vs = true → sameMembers bs vs = true → sameMembers as bs = true
  | [], [], [], _, _ => rfl
  | (k, v) :: vs, (l, a) :: as, (m, b) :: bs, ha, hb => by
    rw [sameMembers, Bool.and_eq_true, Bool.and_eq_true, beq_iff_eq] at ha hb ⊢
    exact ⟨⟨ha.1.1.trans hb.1.1.symm, same_of_same v ha.1.2 hb.1.2⟩,
      sameMembers_of_same vs ha.2 hb.2⟩

end

end Json

/-- Values that may be missing are compared in the same way. -/
theorem sameValue_of_same : ∀ {a b v : Option Json}, sameValue a v = true →
    sameValue b v = true → sameValue a b = true
  | none, none, none, _, _ => rfl
  | some _, some _, some v, ha, hb => Json.same_of_same v ha hb

/-! ### Values that are equal to each other -/

theorem Number.same_self : ∀ n : Number, n.same n = true
  | .int n => by simp [same]
  | .float x => by simp [same, Binary64.same]

namespace Json

mutual

/-- A value equals itself. -/
theorem same_self : ∀ j : Json, j.same j = true
  | .null => rfl
  | .bool b => by simp [same]
  | .number n => n.same_self
  | .string s => by simp [same]
  | .array items => sameItems_self items
  | .object members => sameMembers_self members

theorem sameItems_self : ∀ items : List Json, sameItems items items = true
  | [] => rfl
  | j :: rest => by simp [sameItems, same_self j, sameItems_self rest]

theorem sameMembers_self : ∀ members : List (String × Json), sameMembers members members = true
  | [] => rfl
  | (k, j) :: rest => by simp [sameMembers, same_self j, sameMembers_self rest]

end

/-- It does not matter on which side a value stands. -/
theorem same_comm (a b : Json) : a.same b = b.same a := by
  have turned : ∀ {a b : Json}, a.same b = true → b.same a = true := by
    intro a b h
    exact same_of_same b b.same_self h
  rw [Bool.eq_iff_iff]
  exact ⟨turned, turned⟩

end Json

end HubAutomation
