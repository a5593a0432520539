import HubAutomation.Proofs.Json.CanonicalDocuments
import HubAutomation.Proofs.Json.EqualValues

/-!
# Places in documents

One step below a document stand the members of an object, each under its key,
and the items of an array, each under the text of its index. A path leads down
step by step. Two objects, or two arrays, are equal if what stands below them is
equal at every step.

- `Json.children`: what stands one step below a document.
- `Json.resolve?`: what a path leads to.
- `Json.child_induction`: what holds of a document because it holds of what
  stands below it holds of every document.
- `Json.SameShape`: two objects, or two arrays.
- `Json.same_iff_of_sameShape`: equality step by step.
-/

namespace HubAutomation

namespace Json

/-! ### One step down -/

/-- The items of an array from `index` on, each with the text of its index. -/
def itemsFrom : (index : Nat) → List Json → List (String × Json)
  | _, [] => []
  | index, j :: rest => (toString index, j) :: itemsFrom (index + 1) rest

/-- What stands one step below a document, each with its step. -/
def children : Json → List (String × Json)
  | .object members => members
  | .array items => itemsFrom 0 items
  | _ => []

/-- What a step leads to. -/
def child? (j : Json) (step : String) : Option Json := Dict.find? j.children step

/-- What a path leads to. -/
def resolve? : Json → List String → Option Json
  | j, [] => some j
  | j, step :: rest => (j.child? step).bind fun below => below.resolve? rest

variable {j x : Json} {step : String} {items : List Json} {index : Nat}

theorem index_inj {m n : Nat} : toString m = toString n ↔ m = n := by
  refine ⟨fun same => ?_, congrArg toString⟩
  have digits : Nat.toDigits 10 m = Nat.toDigits 10 n := String.ofList_injective same
  rw [← Nat.ofDigitChars_toDigits (n := m) (b := 10) (by decide) (by decide), digits,
    Nat.ofDigitChars_toDigits (by decide) (by decide)]

/-- Under an index stands an item. -/
theorem mem_itemsFrom {p : String × Json} (mem : p ∈ itemsFrom index items) :
    p.2 ∈ items ∧ ∃ n, index ≤ n ∧ p.1 = toString n := by
  induction items generalizing index with
  | nil => cases mem
  | cons i rest ih =>
    rcases List.mem_cons.1 mem with rfl | later
    · exact ⟨List.mem_cons_self, index, Nat.le_refl _, rfl⟩
    · obtain ⟨isItem, n, le, text⟩ := ih later
      exact ⟨List.mem_cons_of_mem _ isItem, n, by omega, text⟩

theorem exists_mem_itemsFrom (mem : x ∈ items) (index : Nat) :
    ∃ step, (step, x) ∈ itemsFrom index items := by
  induction items generalizing index with
  | nil => cases mem
  | cons i rest ih =>
    rcases List.mem_cons.1 mem with rfl | later
    · exact ⟨toString index, List.mem_cons_self⟩
    · obtain ⟨step, isItem⟩ := ih later (index + 1)
      exact ⟨step, List.mem_cons_of_mem _ isItem⟩

/-- An index before the first one leads nowhere. -/
theorem not_mem_itemsFrom {n : Nat} (lt : n < index) :
    toString n ∉ Dict.keys (itemsFrom index items) := by
  intro mem
  obtain ⟨p, isPair, same⟩ := List.mem_map.1 mem
  obtain ⟨-, m, le, text⟩ := mem_itemsFrom isPair
  rw [text, index_inj] at same
  omega

/-- No index occurs twice. -/
theorem nodup_itemsFrom (index : Nat) (items : List Json) :
    (Dict.keys (itemsFrom index items)).Nodup := by
  induction items generalizing index with
  | nil => exact List.nodup_nil
  | cons i rest ih => exact List.nodup_cons.2 ⟨not_mem_itemsFrom (by omega), ih (index + 1)⟩

theorem exists_child?_of_mem (mem : x ∈ items) : ∃ step, (array items).child? step = some x := by
  obtain ⟨step, isChild⟩ := exists_mem_itemsFrom mem 0
  exact ⟨step, (Dict.mem_iff_find? (nodup_itemsFrom 0 items)).1 isChild⟩

/-! ### Induction from what stands below -/

/-- What stands below a value is smaller. -/
theorem sizeOf_lt_of_child? (found : j.child? step = some x) : sizeOf x < sizeOf j := by
  have mem : (step, x) ∈ j.children := Dict.mem_of_find? found
  cases j with
  | object members =>
    have lt : sizeOf (step, x) < sizeOf members := List.sizeOf_lt_of_mem mem
    simp at lt ⊢
    omega
  | array items =>
    have lt := List.sizeOf_lt_of_mem (mem_itemsFrom mem).1
    simp at lt ⊢
    omega
  | null | bool | number | string => cases mem

/-- What holds of a document because it holds of all that stands one step below
it holds of every document. -/
theorem child_induction {P : Json → Prop}
    (down : ∀ j, (∀ step x, j.child? step = some x → P x) → P j) (j : Json) : P j :=
  down j fun _ x _ => child_induction down x
termination_by sizeOf j
decreasing_by
  rename_i found
  exact sizeOf_lt_of_child? found

/-! ### Below canonical documents -/

theorem IsCanonical.sorted {members : List (String × Json)}
    (canonical : (object members).IsCanonical) :
    Dict.Sorted members := by
  injection canonical with same
  rw [← same]
  exact Dict.sorted_ofList _

/-- Below a document in canonical form all is in canonical form. -/
theorem IsCanonical.child (canonical : j.IsCanonical) (found : j.child? step = some x) :
    x.IsCanonical := by
  have mem : (step, x) ∈ j.children := Dict.mem_of_find? found
  cases j with
  | object members =>
    injection canonical with same
    rw [children, ← same] at mem
    exact isCanonical_canonicalMembers members (step, x) (Dict.mem_of_mem_ofList mem)
  | array items =>
    injection canonical with same
    have isItem : x ∈ canonicalItems items := same.symm ▸ (mem_itemsFrom mem).1
    exact isCanonical_canonicalItems items x isItem
  | null | bool | number | string => cases mem

/-- No two children of a canonical document stand under the same step. -/
theorem IsCanonical.nodup_steps (canonical : j.IsCanonical) : (Dict.keys j.children).Nodup := by
  cases j with
  | object members => exact canonical.sorted.nodup_keys
  | array items => exact nodup_itemsFrom 0 items
  | null | bool | number | string => exact List.nodup_nil

/-! ### Equality step by step -/

/-- Two objects, or two arrays. -/
inductive SameShape : Json → Json → Prop where
  | objects (members members' : List (String × Json)) :
    SameShape (.object members) (.object members')
  | arrays (items items' : List Json) : SameShape (.array items) (.array items')

theorem SameShape.symm {a b : Json} (shape : SameShape a b) : SameShape b a := by
  cases shape with
  | objects => exact .objects _ _
  | arrays => exact .arrays _ _

/-- Two dictionaries agree under every key. -/
def AgreeBelow (d e : List (String × Json)) : Prop :=
  ∀ key, sameValue (Dict.find? d key) (Dict.find? e key) = true

/-- Two objects that begin with the same key agree there and in the rest. -/
theorem agreeBelow_cons {k : String} {v w : Json} {d e : List (String × Json)}
    (hd : k ∉ Dict.keys d) (he : k ∉ Dict.keys e) :
    AgreeBelow ((k, v) :: d) ((k, w) :: e) ↔ v.same w = true ∧ AgreeBelow d e := by
  have noneD := Dict.find?_eq_none_of_not_mem hd
  have noneE := Dict.find?_eq_none_of_not_mem he
  constructor
  · intro agree
    refine ⟨?_, fun key => ?_⟩
    · simpa [Dict.find?_cons, sameValue] using agree k
    · by_cases same : k = key
      · rw [← same, noneD, noneE]
        rfl
      · simpa [Dict.find?_cons, same] using agree key
  · rintro ⟨same, agree⟩ key
    by_cases this : k = key
    · simpa [Dict.find?_cons, this, sameValue] using same
    · simpa [Dict.find?_cons, this] using agree key

/-- Items are equal if they agree under each index. -/
theorem sameItems_iff {as bs : List Json} (index : Nat) :
    sameItems as bs = true ↔ AgreeBelow (itemsFrom index as) (itemsFrom index bs) := by
  induction as generalizing bs index with
  | nil =>
    cases bs with
    | nil => simp [sameItems, AgreeBelow, itemsFrom, sameValue]
    | cons b bs =>
      constructor
      · intro both
        cases both
      · intro agree
        have here := agree (toString index)
        simp [itemsFrom, Dict.find?_cons, sameValue] at here
  | cons a as ih =>
    cases bs with
    | nil =>
      constructor
      · intro both
        cases both
      · intro agree
        have here := agree (toString index)
        simp [itemsFrom, Dict.find?_cons, sameValue] at here
    | cons b bs =>
      have later : ∀ rest, toString index ∉ Dict.keys (itemsFrom (index + 1) rest) := by
        intro rest
        exact not_mem_itemsFrom (by omega)
      simp only [itemsFrom]
      rw [agreeBelow_cons (later as) (later bs), ← ih (index + 1), sameItems, Bool.and_eq_true]

/-- Members in order are equal if they agree under each key. -/
theorem sameMembers_iff {as bs : List (String × Json)} (ha : Dict.Sorted as) (hb : Dict.Sorted bs) :
    sameMembers as bs = true ↔ AgreeBelow as bs := by
  induction as generalizing bs with
  | nil =>
    cases bs with
    | nil => simp [sameMembers, AgreeBelow, sameValue]
    | cons q bs =>
      constructor
      · intro both
        cases both
      · intro agree
        have here := agree q.1
        simp [Dict.find?, sameValue] at here
  | cons p as ih =>
    obtain ⟨k, a⟩ := p
    cases bs with
    | nil =>
      constructor
      · intro both
        cases both
      · intro agree
        have here := agree k
        simp [Dict.find?_cons, sameValue] at here
    | cons q bs =>
      obtain ⟨l, b⟩ := q
      by_cases same : k = l
      · subst same
        have tails := ih (List.pairwise_cons.1 ha).2 (List.pairwise_cons.1 hb).2
        rw [agreeBelow_cons ha.not_mem_tail hb.not_mem_tail, ← tails]
        simp [sameMembers]
      · constructor
        · intro both
          simp [sameMembers, same] at both
        · intro agree
          -- The smaller of the two first keys is in one dictionary only.
          by_cases lt : k < l
          · have here := agree k
            rw [hb.find?_of_lt lt] at here
            simp [Dict.find?_cons, sameValue] at here
          · have gt : l < k := Std.lt_of_le_of_ne (String.not_lt.1 lt) (Ne.symm same)
            have here := agree l
            rw [ha.find?_of_lt gt] at here
            simp [Dict.find?_cons, sameValue] at here

/-- Two objects, or two arrays, are equal if what every step leads to is. -/
theorem same_iff_of_sameShape {a b : Json} (ha : a.IsCanonical) (hb : b.IsCanonical)
    (shape : SameShape a b) :
    a.same b = true ↔ ∀ step, sameValue (a.child? step) (b.child? step) = true := by
  cases shape with
  | objects => exact sameMembers_iff ha.sorted hb.sorted
  | arrays => exact sameItems_iff 0

end Json

end HubAutomation
