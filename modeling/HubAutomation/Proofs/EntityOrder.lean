import HubAutomation.Proofs.EntityTexts

/-!
# The order of entity ids

Ids are ordered by domain and then by object id. Their texts are ordered by code
point. The two orders agree because the point between the words of an id comes
before every character that a word may have: a domain that another one begins
with comes first on both sides.

- `EntityId.instLT`: the order of ids.
- `EntityId.joined_lt_iff`: words with a point behind them, in order.
- `EntityId.text_lt_iff`: the order of texts is that of ids.
- `EntityId.ordered_as_texts`: ids in order are texts in order.
-/

namespace HubAutomation

namespace EntityId

variable {a b : EntityId} {ids : List EntityId}

/-- Ids are ordered by domain, and ids of one domain by object id. -/
instance instLT : LT EntityId where
  lt a b := a.domain < b.domain ∨ a.domain = b.domain ∧ a.objectId < b.objectId

theorem lt_iff : a < b ↔ a.domain < b.domain ∨ a.domain = b.domain ∧ a.objectId < b.objectId :=
  Iff.rfl

/-! ### Texts in order -/

/-- The point comes before every character of a word. -/
theorem IsWord.point_lt {s : String} (word : IsWord s) : ∀ c ∈ s.toList, '.' < c := by
  intro c mem
  rcases word.chars c mem with ⟨letter, -⟩ | ⟨digit, -⟩ | rfl
  · exact Std.lt_of_lt_of_le (by decide) letter
  · exact Std.lt_of_lt_of_le (by decide) digit
  · decide

/-- Words that end with a character before all of theirs are ordered as they
are without it, and what follows decides between equal words only. -/
theorem joined_lt_iff {z : Char} {p q x y : List Char} (hp : ∀ c ∈ p, z < c)
    (hq : ∀ c ∈ q, z < c) : p ++ z :: x < q ++ z :: y ↔ p < q ∨ p = q ∧ x < y := by
  -- Along both words at once: the shorter one may end first.
  induction p generalizing q with
  | nil =>
    cases q with
    | nil =>
      rw [List.nil_append, List.nil_append, List.cons_lt_cons_iff]
      simp
    | cons b q =>
      have first : z < b := hq b List.mem_cons_self
      rw [List.nil_append, List.cons_append, List.cons_lt_cons_iff]
      exact iff_of_true (.inl first) (.inl (List.nil_lt_cons b q))
  | cons a p ih =>
    cases q with
    | nil =>
      have first : z < a := hp a List.mem_cons_self
      rw [List.nil_append, List.cons_append, List.cons_lt_cons_iff]
      refine iff_of_false ?_ ?_
      · rintro (before | ⟨rfl, -⟩)
        · exact Char.lt_asymm first before
        · exact Char.lt_irrefl a first
      · rintro (before | ⟨same, -⟩)
        · exact List.not_lt_nil _ before
        · cases same
    | cons b q =>
      have rest := ih (fun c mem => hp c (List.mem_cons_of_mem a mem))
        (q := q) fun c mem => hq c (List.mem_cons_of_mem b mem)
      rw [List.cons_append, List.cons_append, List.cons_lt_cons_iff, List.cons_lt_cons_iff, rest,
        List.cons.injEq, and_or_left, or_assoc, and_assoc]

/-- The order of texts is the order of ids. -/
theorem text_lt_iff : a.text < b.text ↔ a < b := by
  have joined := joined_lt_iff (x := a.objectId.toList) (y := b.objectId.toList)
    a.isDomain_domain.point_lt b.isDomain_domain.point_lt
  rw [String.lt_iff, toList_text, toList_text, joined, lt_iff, String.lt_iff, String.lt_iff,
    String.toList_inj]

theorem le_eq_true_iff : a.le b = true ↔ ¬ b < a := by
  have domains : ¬ b.domain < a.domain ↔ a.domain < b.domain ∨ a.domain = b.domain := by
    rw [String.not_lt, Std.le_iff_lt_or_eq]
  unfold le
  rw [lt_iff, not_or, not_and, domains, Bool.or_eq_true, Bool.and_eq_true, beq_iff_eq,
    Bool.not_eq_true', decide_eq_true_iff, decide_eq_false_iff_not]
  constructor
  · rintro (before | ⟨same, inOrder⟩)
    · exact ⟨.inl before, fun same => absurd (same ▸ before) (String.lt_irrefl _)⟩
    · exact ⟨.inr same, fun _ => inOrder⟩
  · rintro ⟨before | same, inOrder⟩
    · exact .inl before
    · exact .inr ⟨same, inOrder same.symm⟩

theorem le_eq_decide_text (a b : EntityId) : a.le b = decide (a.text ≤ b.text) := by
  rw [Bool.eq_iff_iff, le_eq_true_iff, decide_eq_true_iff, ← text_lt_iff, String.not_lt]

/-! ### Lists in order -/

/-- Sorting ids is sorting their texts. -/
theorem map_text_mergeSort (ids : List EntityId) :
    (ids.mergeSort le).map text = (ids.map text).mergeSort fun s t => decide (s ≤ t) :=
  List.map_mergeSort fun a _ b _ => le_eq_decide_text a b

theorem mem_dropRepeats : a ∈ dropRepeats ids ↔ a ∈ ids := by
  fun_induction dropRepeats ids with
  | case1 b rest ih => simp [ih]
  | case2 b c rest other ih => rw [List.mem_cons, ih, List.mem_cons (b := b)]
  | case3 ids other => rfl

/-- Ids in order, without those that are equal to the one before, grow
strictly. -/
theorem pairwise_dropRepeats (inOrder : (ids.map text).Pairwise (· ≤ ·)) :
    ((dropRepeats ids).map text).Pairwise (· < ·) := by
  fun_induction dropRepeats ids with
  | case1 b rest ih => exact ih (List.pairwise_cons.1 inOrder).2
  | case2 b c rest other ih =>
    obtain ⟨first, inOrder⟩ := List.pairwise_cons.1 inOrder
    refine List.pairwise_cons.2 ⟨fun s mem => ?_, ih inOrder⟩
    obtain ⟨d, isLater, rfl⟩ := List.mem_map.1 mem
    -- The next id comes strictly later, and all others not before it.
    have next : b.text < c.text :=
      Std.lt_of_le_of_ne (first _ List.mem_cons_self) fun same => other (text_injective same)
    rcases List.mem_cons.1 (mem_dropRepeats.1 isLater) with rfl | later
    · exact next
    · exact Std.lt_of_lt_of_le next ((List.pairwise_cons.1 inOrder).1 _ (List.mem_map_of_mem later))
  | case3 ids other =>
    rcases ids with - | ⟨b, - | ⟨c, rest⟩⟩
    · exact .nil
    · exact List.pairwise_singleton _ _
    · exact absurd rfl (other b c rest)

theorem pairwise_mergeSort_text (ids : List EntityId) :
    ((ids.mergeSort le).map text).Pairwise (· ≤ ·) := by
  let le' (s t : String) : Bool := decide (s ≤ t)
  have trans (s t u : String) (st : le' s t = true) (tu : le' t u = true) : le' s u = true :=
    decide_eq_true (String.le_trans (of_decide_eq_true st) (of_decide_eq_true tu))
  have total (s t : String) : (le' s t || le' t s) = true := by
    rw [Bool.or_eq_true, decide_eq_true_iff, decide_eq_true_iff]
    exact String.le_total s t
  have sorted := List.pairwise_mergeSort trans total (ids.map text)
  rw [map_text_mergeSort]
  exact sorted.imp of_decide_eq_true

/-- An id comes before another exactly if its text does. Sorting ids gives their
sorted texts; without repetitions the texts grow strictly, and none is lost. -/
theorem ordered_as_texts :
    (∀ a b : EntityId, a < b ↔ a.text < b.text) ∧
    (∀ a b : EntityId, a.le b = true ↔ ¬ b < a) ∧
    (∀ ids : List EntityId,
      (ids.mergeSort le).map text = (ids.map text).mergeSort fun s t => decide (s ≤ t)) ∧
    ∀ ids : List EntityId, ((sortUnique ids).map text).Pairwise (· < ·) ∧
      ∀ s, s ∈ (sortUnique ids).map text ↔ s ∈ ids.map text := by
  refine ⟨fun _ _ => text_lt_iff.symm, fun _ _ => le_eq_true_iff, map_text_mergeSort,
    fun ids => ⟨pairwise_dropRepeats (pairwise_mergeSort_text ids), fun s => ?_⟩⟩
  rw [List.mem_map, List.mem_map]
  simp only [sortUnique, mem_dropRepeats, List.mem_mergeSort]

end EntityId

end HubAutomation
