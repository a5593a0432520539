import HubAutomation.Difference
import HubAutomation.Proofs.Json.Places
import Mathlib.Data.List.Perm.Basic

/-!
# Where documents differ

Objects and arrays are compared in the same way: the differences are those at
each step that one of the two documents has, first the steps of the old one and
then what is new. Whatever is said of differences is said of one step and then,
from below, of whole documents.

- `Json.diffAt`: the differences of what a step leads to in the old document and
  in the new one.
- `Json.diff_of_sameShape`: the differences of two objects, or of two arrays.
- `Json.Differs`: what a difference is of. `Json.Differs.resolve?`: its path leads
  to its two sides.
- `Json.apart_diff`: no path of a difference begins with the path of another one.
- `Json.diff_eq_nil_iff`: equal documents are those without a difference.
- `Json.diff_mirrored`: the differences the other way round.
-/

namespace HubAutomation

/-- What happened, seen from the new document. -/
def Change.mirror : Change → Change
  | .add new => .delete new
  | .update old new => .update new old
  | .delete old => .add old

namespace Difference

variable {d e : Difference}

/-- The difference seen from the new document. -/
def mirror (d : Difference) : Difference := { d with change := d.change.mirror }

/-- Neither path begins with the other one. -/
def Apart (d e : Difference) : Prop := ¬ d.path <+: e.path ∧ ¬ e.path <+: d.path

@[simp] theorem path_below (step : String) (d : Difference) :
    (d.below step).path = step :: d.path := rfl

@[simp] theorem old?_below (step : String) (d : Difference) : (d.below step).old? = d.old? := rfl

@[simp] theorem new?_below (step : String) (d : Difference) : (d.below step).new? = d.new? := rfl

theorem Apart.below (apart : d.Apart e) (step : String) : (d.below step).Apart (e.below step) := by
  simpa [Apart, List.cons_prefix_cons] using apart

end Difference

namespace Json

/-! ### Step by step -/

/-- The differences of what a step leads to in two documents. -/
def diffAt (step : String) : Option Json → Option Json → List Difference
  | some old, some new => (diff old new).map (·.below step)
  | some old, none => [⟨[step], .delete old⟩]
  | none, some new => [⟨[step], .add new⟩]
  | none, none => []

/-- The steps of two documents, those of the first one first. -/
def bothSteps (a b : Json) : List String :=
  Dict.keys a.children ++ (Dict.keys b.children).filter fun step => step ∉ Dict.keys a.children

variable {a b : Json} {step : String} {d e : Difference}

/-- A difference under a key has a path that begins there. -/
theorem path_of_mem_diffAt {old new : Option Json} (mem : d ∈ diffAt step old new) :
    ∃ rest, d.path = step :: rest := by
  cases old with
  | none =>
    cases new with
    | none => cases mem
    | some y => exact ⟨[], by rw [List.mem_singleton.1 mem]⟩
  | some x =>
    cases new with
    | none => exact ⟨[], by rw [List.mem_singleton.1 mem]⟩
    | some y =>
      obtain ⟨e, -, rfl⟩ := List.mem_map.1 mem
      exact ⟨e.path, rfl⟩

/-- The steps of two values are those of the one and those of the other. -/
theorem mem_bothSteps_iff :
    step ∈ bothSteps a b ↔ step ∈ Dict.keys a.children ∨ step ∈ Dict.keys b.children := by
  by_cases mem : step ∈ Dict.keys a.children <;> simp [bothSteps, mem]

theorem child?_eq_none_of_not_mem (h : step ∉ bothSteps a b) :
    a.child? step = none ∧ b.child? step = none := by
  obtain ⟨notOld, notNew⟩ := not_or.1 (mem_bothSteps_iff.not.1 h)
  exact ⟨Dict.find?_eq_none_of_not_mem notOld, Dict.find?_eq_none_of_not_mem notNew⟩

/-- No step occurs twice. -/
theorem nodup_bothSteps (ha : a.IsCanonical) (hb : b.IsCanonical) : (bothSteps a b).Nodup := by
  refine List.nodup_append.2 ⟨ha.nodup_steps, hb.nodup_steps.filter _, ?_⟩
  rintro step isOld _ isNew rfl
  simp [isOld] at isNew

/-- The differences of two dictionaries: under the keys of the first one, and
then what the second one has more. -/
def diffPairs (old new : List (String × Json)) : List Difference :=
  old.flatMap (fun p => diffAt p.1 (some p.2) (Dict.find? new p.1)) ++ addedMembers old new

/-- Objects differ key by key. -/
theorem diffMembers_eq (old new : List (String × Json)) :
    diffMembers old new = old.flatMap fun p => diffAt p.1 (some p.2) (Dict.find? new p.1) := by
  induction old with
  | nil => rfl
  | cons p rest ih =>
    obtain ⟨k, j⟩ := p
    rw [diffMembers, ih, List.flatMap_cons]
    cases Dict.find? new k <;> rfl

/-- Items that are added are members that are added, under their indices. -/
theorem addedItems_eq (index : Nat) (items : List Json) :
    addedItems index items = addedMembers [] (itemsFrom index items) := by
  induction items generalizing index with
  | nil => rfl
  | cons j rest ih => simp [addedItems, ih, addedMembers, itemsFrom, Dict.mem]

/-- Two members with the same key in front. -/
theorem diffPairs_cons {k : String} {x y : Json} {old new : List (String × Json)}
    (hold : k ∉ Dict.keys old) (hnew : k ∉ Dict.keys new) :
    diffPairs ((k, x) :: old) ((k, y) :: new) =
      (diff x y).map (·.below k) ++ diffPairs old new := by
  have others : ∀ p ∈ old, Dict.find? ((k, y) :: new) p.1 = Dict.find? new p.1 := by
    intro p mem
    have other : k ≠ p.1 := fun same => hold (same ▸ List.mem_map_of_mem mem)
    simp [Dict.find?_cons, other]
  have more : addedMembers ((k, x) :: old) ((k, y) :: new) = addedMembers old new := by
    have first : Dict.mem ((k, x) :: old) k = true := by simp [Dict.mem, Dict.find?_cons]
    have later : ∀ p ∈ new, Dict.mem ((k, x) :: old) p.1 = Dict.mem old p.1 := by
      intro p mem
      have other : k ≠ p.1 := fun same => hnew (same ▸ List.mem_map_of_mem mem)
      simp [Dict.mem, Dict.find?_cons, other]
    unfold addedMembers
    rw [List.filter_cons_of_neg (by simp [first])]
    exact congrArg _ (List.filter_congr fun p mem => by rw [later p mem])
  have here : diffAt k (some x) (Dict.find? ((k, y) :: new) k) = (diff x y).map (·.below k) := by
    simp [Dict.find?_cons, diffAt]
  unfold diffPairs
  rw [List.flatMap_cons, here, more, List.append_assoc]
  congr 2
  exact List.flatMap_congr fun p mem => by rw [others p mem]

/-- Items differ as members under their indices do. -/
theorem diffItems_eq (index : Nat) (old new : List Json) :
    diffItems index old new = diffPairs (itemsFrom index old) (itemsFrom index new) := by
  induction old generalizing index new with
  | nil =>
    cases new with
    | nil => rfl
    | cons y ys => exact addedItems_eq index (y :: ys)
  | cons x xs ih =>
    cases new with
    | nil =>
      rw [diffItems, ih]
      rfl
    | cons y ys =>
      have later : ∀ rest, toString index ∉ Dict.keys (itemsFrom (index + 1) rest) := by
        intro rest
        exact not_mem_itemsFrom (by omega)
      simp only [itemsFrom]
      rw [diffPairs_cons (later xs) (later ys), diffItems, ih]

/-- Two values of the same shape differ child by child. -/
theorem diff_eq_diffPairs (shape : SameShape a b) : diff a b = diffPairs a.children b.children := by
  cases shape with
  | objects members members' => rw [diff, diffMembers_eq]; rfl
  | arrays items items' => exact diffItems_eq 0 items items'

/-- Pairs differ under each of their keys. -/
theorem diffPairs_eq {old new : List (String × Json)} (hold : (Dict.keys old).Nodup)
    (hnew : (Dict.keys new).Nodup) :
    diffPairs old new =
      (Dict.keys old ++ (Dict.keys new).filter fun step => step ∉ Dict.keys old).flatMap
        fun step => diffAt step (Dict.find? old step) (Dict.find? new step) := by
  have there : old.flatMap (fun p => diffAt p.1 (some p.2) (Dict.find? new p.1)) =
      (Dict.keys old).flatMap
        fun step => diffAt step (Dict.find? old step) (Dict.find? new step) := by
    unfold Dict.keys
    rw [List.flatMap_map]
    exact List.flatMap_congr fun p mem => by rw [(Dict.mem_iff_find? hold).1 mem]
  have more : addedMembers old new =
      ((Dict.keys new).filter fun step => step ∉ Dict.keys old).flatMap
        fun step => diffAt step (Dict.find? old step) (Dict.find? new step) := by
    have sameFilter : new.filter (fun p => !Dict.mem old p.1) =
        new.filter ((fun step => decide (step ∉ Dict.keys old)) ∘ Prod.fst) := by
      refine List.filter_congr fun p _ => ?_
      cases found : Dict.find? old p.1 <;> simp [Dict.mem, Dict.mem_keys_iff, found]
    have newKeys : (Dict.keys new).filter (fun step => decide (step ∉ Dict.keys old)) =
        (new.filter ((fun step => decide (step ∉ Dict.keys old)) ∘ Prod.fst)).map Prod.fst :=
      List.filter_map
    unfold addedMembers
    rw [sameFilter, newKeys, List.map_eq_flatMap, List.flatMap_map]
    refine List.flatMap_congr fun p mem => ?_
    obtain ⟨isNew, absent⟩ := List.mem_filter.1 mem
    rw [(Dict.mem_iff_find? hnew).1 isNew,
      Dict.find?_eq_none_of_not_mem (of_decide_eq_true absent)]
    rfl
  unfold diffPairs
  rw [there, more, List.flatMap_append]

/-- The differences of two objects, or of two arrays, are those at each step. -/
theorem diff_of_sameShape (ha : a.IsCanonical) (hb : b.IsCanonical) (shape : SameShape a b) :
    diff a b =
      (bothSteps a b).flatMap fun step => diffAt step (a.child? step) (b.child? step) := by
  rw [diff_eq_diffPairs shape]
  exact diffPairs_eq ha.nodup_steps hb.nodup_steps

/-- Documents of different shape differ as a whole or not at all. -/
theorem diff_of_not_sameShape (other : ¬ SameShape a b) :
    diff a b = if a.same b then [] else [⟨[], .update a b⟩] := by
  cases a <;> cases b <;> first | rfl | exact absurd (by constructor) other

/-! ### What the path of a difference leads to -/

/-- A difference of two documents: of the whole documents, of what a step leads
to in one of them only, or further down. -/
inductive Differs : Json → Json → Difference → Prop where
  | whole {a b : Json} : ¬ SameShape a b → a.same b = false → Differs a b ⟨[], .update a b⟩
  | deleted {a b x : Json} {step : String} : SameShape a b → a.child? step = some x →
    b.child? step = none → Differs a b ⟨[step], .delete x⟩
  | added {a b y : Json} {step : String} : SameShape a b → a.child? step = none →
    b.child? step = some y → Differs a b ⟨[step], .add y⟩
  | inside {a b x y : Json} {step : String} {d : Difference} : SameShape a b →
    a.child? step = some x → b.child? step = some y → Differs x y d → Differs a b (d.below step)

/-- A difference leads to a place where the two documents differ. -/
theorem differs_of_mem_diff (ha : a.IsCanonical) (hb : b.IsCanonical) (mem : d ∈ diff a b) :
    Differs a b d := by
  induction a using child_induction generalizing b d with
  | down a ih =>
    by_cases shape : SameShape a b
    · rw [diff_of_sameShape ha hb shape] at mem
      obtain ⟨step, -, here⟩ := List.mem_flatMap.1 mem
      cases hx : a.child? step with
      | none =>
        cases hy : b.child? step with
        | none => simp [hx, hy, diffAt] at here
        | some y =>
          simp only [hx, hy, diffAt, List.mem_singleton] at here
          exact here ▸ .added shape hx hy
      | some x =>
        cases hy : b.child? step with
        | none =>
          simp only [hx, hy, diffAt, List.mem_singleton] at here
          exact here ▸ .deleted shape hx hy
        | some y =>
          simp only [hx, hy, diffAt, List.mem_map] at here
          obtain ⟨e, inside, rfl⟩ := here
          exact .inside shape hx hy (ih step x hx (ha.child hx) (hb.child hy) inside)
    · rw [diff_of_not_sameShape shape] at mem
      split at mem
      · cases mem
      · rename_i other
        rw [List.mem_singleton.1 mem]
        exact .whole shape (Bool.eq_false_iff.2 other)

/-- In the old document the path of a difference leads to what it says was there,
and nowhere if it says that nothing was; so in the new document. -/
theorem Differs.resolve? (h : Differs a b d) :
    a.resolve? d.path = d.old? ∧ b.resolve? d.path = d.new? := by
  induction h with
  | whole => exact ⟨rfl, rfl⟩
  | deleted _ hx hy =>
    constructor <;> simp [Json.resolve?, hx, hy, Difference.old?, Difference.new?]
  | added _ hx hy =>
    constructor <;> simp [Json.resolve?, hx, hy, Difference.old?, Difference.new?]
  | inside _ hx hy _ ih =>
    constructor
    · simpa [Json.resolve?, hx] using ih.1
    · simpa [Json.resolve?, hy] using ih.2

/-- What is updated is not two objects or two arrays, and not equal. -/
theorem Differs.update (h : Differs a b d) {old new : Json} (updates : d.change = .update old new) :
    ¬ SameShape old new ∧ old.same new = false := by
  induction h with
  | whole other differ =>
    cases updates
    exact ⟨other, differ⟩
  | deleted | added => cases updates
  | inside _ _ _ _ ih => exact ih updates

/-! ### Paths of different differences -/

/-- Differences under different keys are apart. -/
theorem apart_diffAt {s t : String} {old new old' new' : Option Json} (other : s ≠ t)
    (hd : d ∈ diffAt s old new) (he : e ∈ diffAt t old' new') : d.Apart e := by
  obtain ⟨p, hp⟩ := path_of_mem_diffAt hd
  obtain ⟨q, hq⟩ := path_of_mem_diffAt he
  constructor
  · rw [hp, hq, List.cons_prefix_cons]
    exact fun both => other both.1
  · rw [hp, hq, List.cons_prefix_cons]
    exact fun both => other both.1.symm

/-- No path of a difference begins with the path of another one. -/
theorem apart_diff (ha : a.IsCanonical) (hb : b.IsCanonical) :
    (diff a b).Pairwise Difference.Apart := by
  induction a using child_induction generalizing b with
  | down a ih =>
    by_cases shape : SameShape a b
    · rw [diff_of_sameShape ha hb shape, List.pairwise_flatMap]
      constructor
      · intro step _
        cases hx : a.child? step with
        | none => cases b.child? step <;> simp [diffAt]
        | some x =>
          cases hy : b.child? step with
          | none => simp [diffAt]
          | some y =>
            have inside := ih step x hx (ha.child hx) (hb.child hy)
            exact List.pairwise_map.2 (inside.imp fun apart => apart.below step)
      · -- Below different steps two paths part at once.
        refine (nodup_bothSteps ha hb).imp ?_
        intro s t other d hd e he
        exact apart_diffAt other hd he
    · rw [diff_of_not_sameShape shape]
      split <;> simp

/-! ### Documents without a difference -/

/-- Documents do not differ exactly if they are equal. -/
theorem diff_eq_nil_iff (ha : a.IsCanonical) (hb : b.IsCanonical) :
    diff a b = [] ↔ a.same b = true := by
  induction a using child_induction generalizing b with
  | down a ih =>
    by_cases shape : SameShape a b
    · have here : ∀ step, diffAt step (a.child? step) (b.child? step) = [] ↔
          sameValue (a.child? step) (b.child? step) = true := by
        intro step
        cases hx : a.child? step with
        | none => cases b.child? step <;> simp [diffAt, sameValue]
        | some x =>
          cases hy : b.child? step with
          | none => simp [diffAt, sameValue]
          | some y => simpa [diffAt, sameValue] using ih step x hx (ha.child hx) (hb.child hy)
      rw [diff_of_sameShape ha hb shape, List.flatMap_eq_nil_iff, same_iff_of_sameShape ha hb shape]
      constructor
      · intro nothing step
        by_cases mem : step ∈ bothSteps a b
        · exact (here step).1 (nothing step mem)
        · -- Equality is asked of every step, also of those that neither document has.
          obtain ⟨notOld, notNew⟩ := child?_eq_none_of_not_mem mem
          rw [notOld, notNew]
          rfl
      · intro same step _
        exact (here step).2 (same step)
    · rw [diff_of_not_sameShape shape]
      split <;> simp_all

/-! ### The other way round -/

/-- What differs under a key differs the other way round as well. -/
theorem diffAt_mirrored {old new : Option Json}
    (inside : ∀ x y, old = some x → new = some y →
      (diff y x).Perm ((diff x y).map Difference.mirror)) :
    (diffAt step new old).Perm ((diffAt step old new).map Difference.mirror) := by
  cases old with
  | none => cases new <;> exact .refl _
  | some x =>
    cases new with
    | none => exact .refl _
    | some y =>
      have sides := (inside x y rfl rfl).map (·.below step)
      rw [List.map_map] at sides
      rw [diffAt, diffAt, List.map_map]
      exact sides

theorem bothSteps_perm (ha : a.IsCanonical) (hb : b.IsCanonical) :
    (bothSteps b a).Perm (bothSteps a b) := by
  rw [List.perm_ext_iff_of_nodup (nodup_bothSteps hb ha) (nodup_bothSteps ha hb)]
  intro step
  rw [mem_bothSteps_iff, mem_bothSteps_iff, or_comm]

/-- The differences the other way round are the mirrored ones, in some order. -/
theorem diff_mirrored (ha : a.IsCanonical) (hb : b.IsCanonical) :
    (diff b a).Perm ((diff a b).map Difference.mirror) := by
  induction a using child_induction generalizing b with
  | down a ih =>
    by_cases shape : SameShape a b
    · rw [diff_of_sameShape ha hb shape, diff_of_sameShape hb ha shape.symm, List.map_flatMap]
      refine (List.Perm.flatMap_right _ (bothSteps_perm ha hb)).trans ?_
      refine List.Perm.flatMap_left _ fun step _ => diffAt_mirrored ?_
      intro x y hx hy
      exact ih step x hx (ha.child hx) (hb.child hy)
    · have shape' : ¬ SameShape b a := fun h => shape h.symm
      rw [diff_of_not_sameShape shape, diff_of_not_sameShape shape', same_comm b a]
      split <;> exact .refl _

/-- What a hub says of a room, with a zero of either sign. -/
def roomBefore : Json :=
  .object [("color", .string "red"), ("level", .number (.float (.zero false))),
    ("modes", .array [.int 1, .int 2, .int 3])]

def roomAfter : Json :=
  .object [("level", .number (.float (.zero true))), ("modes", .array [.int 1, .string "x"]),
    ("name", .string "hall")]

theorem isCanonical_roomBefore : roomBefore.IsCanonical := by
  have sorted : (["color", "level", "modes"] : List String).Pairwise (· < ·) := by decide
  refine isCanonical_object (Dict.sorted_of_keys sorted) ?_
  simp [IsCanonical, canonical, canonicalItems, int]

theorem isCanonical_roomAfter : roomAfter.IsCanonical := by
  have sorted : (["level", "modes", "name"] : List String).Pairwise (· < ·) := by decide
  refine isCanonical_object (Dict.sorted_of_keys sorted) ?_
  simp [IsCanonical, canonical, canonicalItems, int]

theorem diff_mirrored_room :
    roomBefore.IsCanonical ∧ roomAfter.IsCanonical ∧
      (diff roomAfter roomBefore).Perm ((diff roomBefore roomAfter).map Difference.mirror) :=
  ⟨isCanonical_roomBefore, isCanonical_roomAfter,
    diff_mirrored isCanonical_roomBefore isCanonical_roomAfter⟩

end Json

end HubAutomation
